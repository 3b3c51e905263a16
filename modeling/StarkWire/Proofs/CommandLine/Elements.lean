/-
# Elements on the command line

A command about elements puts the values of its texts to one operation of the bridge and prints the
elements of the answer, or fails with the first text that is no hex text or with what the bridge
failed with (`respond_elements`).  Nothing is printed before all of this is known.

What is printed is the hex text of each element: in text format a line each, in JSON format the
string values of a document (`elementTexts`).  They are read back as the elements, which make up
the answer of the bridge again.
-/

import StarkWire.Proofs.Bridge.Grid
import StarkWire.Proofs.CommandLine.ElementCommand
import StarkWire.Proofs.Json.StringValues

namespace StarkWire

open Poseidon (WireState)

/-- The elements in an answer of the bridge: of 32 bytes the one that they encode, of a grid those
of the state in it. -/
inductive Bridge.Answer.Carries : Bridge.Answer → List U256 → Prop
  | bytes (wire : Bytes 32) : Carries (.bytes wire.toList) [U256.decode wire]
  | grid {grid : Grid} {state : WireState} (h : WireState.ofGrid grid = .ok state) :
    Carries (.grid grid) state.elements

namespace CommandLine

open Json (Document stringValues)

/-! ### What is told of elements -/

/-- The texts of the elements in what is printed. -/
def elementTexts (format : Format) (lines : List String) : List String :=
  match format with
  | .text => lines
  | .json => lines.flatMap fun line => (stringValues line.toList).map String.ofList

namespace ElementCommand

variable {α : Type} {c : ElementCommand String} {d : ElementCommand U256}

/-- The answer that consists of some elements. -/
def answerOf (as : List U256) : ElementCommand α → Bridge.Answer
  | hades _ => .grid (as.map U256.limbs)
  | _ => .bytes (as.flatMap fun a => a.encode.toList)

/-- What is said to have failed when the bridge does. -/
def context : ElementCommand α → String
  | publicKey _ => "Failed to derive public key"
  | hades _ => "Failed to permute state"
  | _ => "Failed to hash"

/-- The document about some elements; about a permuted state it holds the limbs of each too. -/
def document (elapsed : Elapsed) (as : List U256) : ElementCommand α → Document
  | publicKey _ => .object (as.map fun a => ("public_key", .text a.toHex))
  | hades _ => .object [("state", .list (as.map fun a => .text a.toHex)),
      ("limbs", .list (as.map fun a => .list (a.limbs.map fun limb => .number limb.toNat)))]
  | _ => .object ((as.map fun a => ("hash", .text a.toHex)) ++
      [("elapsed_us", .number elapsed.micros)])

/-- What is printed of some elements. -/
def printed (c : ElementCommand α) (elapsed : Elapsed) (as : List U256) : Format → List String
  | .text => as.map U256.toHex
  | .json => [(c.document elapsed as).pretty]

/-! ### Carrying out the command -/

variable {σ : Type} (P : Primitives σ) (s : σ)

/-- A text that is no hex text ends the command before any request. -/
theorem run_of_firstRejected {name text : String} {e : HexError}
    (h : FirstRejected name text e c.arguments) :
    c.command.run P s
      = ⟨.error (.ofHexError ("Invalid " ++ name ++ ": " ++ text) e), s, [], []⟩ := by
  -- the texts are read in their order before the bridge is asked for anything
  suffices haction : c.command.action P
      = .error (.ofHexError ("Invalid " ++ name ++ ": " ++ text) e) by
    rw [Command.run, haction]
  cases c with
  | pedersen first second =>
    rw [command, Command.action]
    cases h with
    | here h =>
      rw [readWire_eq_error h]
      rfl
    | later ha h =>
      cases h with
      | here h =>
        rw [readWire_eq ha, readWire_eq_error h]
        rfl
      | later _ h => cases h
  | publicKey privateKey =>
    rw [command, Command.action]
    cases h with
    | here h =>
      rw [readWire_eq_error h]
      rfl
    | later _ h => cases h
  | hades state =>
    rw [command, Command.action, readTexts_of_firstRejected h]
    rfl
  | pedersenMany elements =>
    rw [command, Command.action, readWires_of_firstRejected h]
    rfl
  | poseidon elements =>
    rw [command, Command.action, readWires_of_firstRejected h]
    rfl

/-- What a report of some elements prints. -/
structure Shows (c : ElementCommand α) (report : Report) (as : List U256) : Prop where
  lines_eq : report.lines = as.map U256.toHex
  document_eq (elapsed : Elapsed) : report.document elapsed = c.document elapsed as
  code_eq : report.code = 0

/-- What a command reports, by how its operation ends. -/
inductive Tells (c : ElementCommand α) :
    Except Bridge.Error Bridge.Answer → Except Failure Report → Prop
  | elements {answer : Bridge.Answer} {as : List U256} {report : Report}
    (carries : answer.Carries as) (answer_eq : answer = c.answerOf as)
    (shows : c.Shows report as) : Tells c (.ok answer) (.ok report)
  | failure (e : Bridge.Error) : Tells c (.error e) (.error (.ofError c.context e))

/-- Wire bytes are told by their element. -/
theorem Tells.of_bytes {c : ElementCommand α} {report : U256 → Report}
    (hanswer : ∀ a, c.answerOf [a] = .bytes (a.encode.toList ++ []))
    (hshows : ∀ a, c.Shows (report a) [a]) (answer : Except Bridge.Error (Bytes 32)) :
    c.Tells (Bridge.Operation.bytesAnswer answer)
      (reportAnswer c.context (fun wire => .ok (report (U256.decode wire))) answer) := by
  rcases answer with e | wire
  · exact .failure e
  · refine .elements (.bytes wire) ?_ (hshows _)
    rw [hanswer, List.append_nil, U256.encode_decode]

/-- A grid is told by the state in it. -/
theorem Tells.of_grid {state : List α} {answer : Except Bridge.Error Grid}
    (h : ∀ grid, answer = .ok grid → ∃ state, WireState.ofGrid grid = .ok state) :
    (hades state).Tells (answer.map .grid) (stateReport answer) := by
  rcases answer with e | grid
  · exact .failure e
  · obtain ⟨after, hafter⟩ := h grid rfl
    have hgrid := WireState.ofGrid_eq_ok_iff.1 hafter
    rw [stateReport, reportAnswer, hafter]
    refine .elements (.grid hafter) (congrArg Bridge.Answer.grid hgrid.symm) ⟨rfl, ?_, rfl⟩
    intro elapsed
    rw [Report.document, ← hgrid]
    rfl

/-- **A command tells how its operation ends.** -/
theorem tells_run (h : c.Reads d) :
    c.Tells (d.operation.run P s).answer (c.command.run P s).answer := by
  cases c with
  | pedersen first second =>
    cases d with
    | pedersen a b =>
      obtain ⟨ha, hb⟩ := ElementCommand.pedersen.inj h
      simp only [command, Command.run, Command.action, readWire_eq ha, readWire_eq hb]
      exact .of_bytes (fun _ => rfl) (fun _ => ⟨rfl, fun _ => rfl, rfl⟩) _
    | _ => cases h
  | pedersenMany elements =>
    cases d with
    | pedersenMany as =>
      have hread := readWires_of_map_ofHex (ElementCommand.pedersenMany.inj h)
      simp only [command, Command.run, Command.action, hread]
      exact .of_bytes (fun _ => rfl) (fun _ => ⟨rfl, fun _ => rfl, rfl⟩) _
    | _ => cases h
  | publicKey privateKey =>
    cases d with
    | publicKey a =>
      simp only [command, Command.run, Command.action, readWire_eq (ElementCommand.publicKey.inj h)]
      exact .of_bytes (fun _ => rfl) (fun _ => ⟨rfl, fun _ => rfl, rfl⟩) _
    | _ => cases h
  | hades state =>
    cases d with
    | hades as =>
      have hread := readTexts_of_map_ofHex (ElementCommand.hades.inj h) "state element"
      simp only [command, Command.run, Command.action, hread]
      exact .of_grid fun _ => Bridge.exists_ofGrid_of_hades P s
    | _ => cases h
  | poseidon elements =>
    cases d with
    | poseidon as =>
      have hread := readWires_of_map_ofHex (ElementCommand.poseidon.inj h)
      simp only [command, Command.run, Command.action, hread]
      exact .of_bytes (fun _ => rfl) (fun _ => ⟨rfl, fun _ => rfl, rfl⟩) _
    | _ => cases h

/-- A command tells how its operation ends over the curve itself. -/
theorem tells_report (h : c.Reads d) :
    c.Tells (d.operation.run Production.primitives ()).answer c.command.report :=
  tells_run Production.primitives () h

/-! ### What is printed -/

/-- The elements of an answer are printed: the texts on standard output are their hex texts, and
the elements read off these make up the answer again. -/
structure Printed (c : ElementCommand α) (elapsed : Elapsed) (format : Format)
    (answer : Bridge.Answer) (as : List U256) (output : Output) : Prop where
  carries : answer.Carries as
  answer_eq : answer = c.answerOf as
  code_eq : output.code = 0
  out_eq : output.out = c.printed elapsed as format
  texts_eq : elementTexts format output.out = as.map U256.toHex
  read_eq : (elementTexts format output.out).map U256.ofHex = as.map .ok

/-- The texts of a document about elements are theirs. -/
theorem texts_document (c : ElementCommand α) (elapsed : Elapsed) (as : List U256) :
    (c.document elapsed as).texts = as.map fun a => a.toHex.toList := by
  have helements : (as.flatMap fun a => [a.toHex.toList]) = as.map fun a => a.toHex.toList :=
    List.map_eq_flatMap.symm
  have hnumbers : (as.flatMap fun a => a.limbs.flatMap fun _ => ([] : List (List Char))) = [] := by
    simp [List.flatMap_eq_nil_iff]
  cases c <;>
    simp [document, Document.texts, Document.memberTexts, Document.memberTexts_eq_flatMap,
      Document.itemTexts_eq_flatMap, List.flatMap_map, helements, hnumbers]

/-- The texts in what is printed are those of the elements, in either format. -/
theorem elementTexts_printed (c : ElementCommand α) (elapsed : Elapsed) (format : Format)
    (as : List U256) : elementTexts format (c.printed elapsed as format) = as.map U256.toHex := by
  cases format with
  | text => rfl
  | json => simp [elementTexts, printed, Document.stringValues_pretty, texts_document]

/-- A report of elements prints them. -/
theorem Shows.out_eq {report : Report} {as : List U256} {c : ElementCommand α}
    (h : c.Shows report as) (format : Format) (elapsed : Elapsed) :
    (report.output format elapsed).out = c.printed elapsed as format := by
  cases format with
  | text => exact h.lines_eq
  | json => exact congrArg (fun document => [document.pretty]) (h.document_eq elapsed)

/-- A report of elements ends with success. -/
theorem Shows.code_output {report : Report} {as : List U256} {c : ElementCommand α}
    (h : c.Shows report as) (format : Format) (elapsed : Elapsed) :
    (report.output format elapsed).code = 0 := by
  cases format <;> exact h.code_eq

/-- Whatever report shows the elements of an answer, they are printed and read back. -/
theorem Shows.printed {report : Report} {as : List U256} {c : ElementCommand α}
    (h : c.Shows report as) {answer : Bridge.Answer} (hcarries : answer.Carries as)
    (hanswer : answer = c.answerOf as) (format : Format) (elapsed : Elapsed) :
    c.Printed elapsed format answer as (report.output format elapsed) where
  carries := hcarries
  answer_eq := hanswer
  code_eq := h.code_output format elapsed
  out_eq := h.out_eq format elapsed
  texts_eq := by rw [h.out_eq, elementTexts_printed]
  read_eq := by
    rw [h.out_eq, elementTexts_printed, List.map_map]
    refine List.map_congr_left fun a _ => ?_
    rw [Function.comp_apply, U256.ofHex_toHex]

end ElementCommand

/-! ### The answers of the command line -/

/-- What is printed of a failure: nothing on standard output, and on the other what failed and why,
with a number where the cause has a reason of its own. -/
def failed (context cause : String) : (reason : Option String) → Output
  | none => ⟨1, [], ["Error: " ++ context, "", "Caused by:", "    " ++ cause]⟩
  | some reason =>
    ⟨1, [], ["Error: " ++ context, "", "Caused by:", "    0: " ++ cause, "    1: " ++ reason]⟩

/-- A failure prints its context, its cause and, where there is one, the reason under it. -/
theorem output_failure (context cause : String) (reason : Option String) :
    (Failure.mk context (cause :: reason.toList)).output = failed context cause reason := by
  cases reason with
  | none => rfl
  | some reason =>
    have hfirst : "    " ++ toString 0 ++ ": " = "    0: " := by decide
    have hsecond : "    " ++ toString 1 ++ ": " = "    1: " := by decide
    exact congrArg₂ (fun first second => Output.mk 1 []
      ["Error: " ++ context, "", "Caused by:", first ++ cause, second ++ reason]) hfirst hsecond

/-- Where all texts are accepted and the bridge answers, the elements of its answer are printed;
otherwise it is said what was rejected first, or how the bridge failed. -/
structure AnswersAsBridge (c : ElementCommand String) (elapsed : Elapsed) (format : Format)
    (output : Output) : Prop where
  accepted_iff : (∃ d, c.Reads d) ↔ ∀ argument ∈ c.arguments, ∃ a, U256.ofHex argument.2 = .ok a
  accepted_or_rejected :
    (∃ d, c.Reads d) ∨ ∃ name text e, FirstRejected name text e c.arguments
  answered {d : ElementCommand U256} {answer : Bridge.Answer} (h : c.Reads d)
    (hanswer : (d.operation.run Production.primitives ()).answer = .ok answer) :
    ∃ as, c.Printed elapsed format answer as output
  unanswered {d : ElementCommand U256} {e : Bridge.Error} (h : c.Reads d)
    (hanswer : (d.operation.run Production.primitives ()).answer = .error e) :
    output = failed c.context e.message (e.cause.map SizeError.message)
  rejected {name text : String} {e : HexError} (h : FirstRejected name text e c.arguments) :
    output = failed ("Invalid " ++ name ++ ": " ++ text) e.message e.digitFault

/-- **What the command line answers with is what the bridge answers with,** in both formats. -/
theorem respond_elements (elapsed : Elapsed) {words : List String} {format : Format}
    {c : ElementCommand String} (h : parse words = .ok ⟨format, c.command⟩) :
    AnswersAsBridge c elapsed format (respond elapsed words) := by
  have hrespond : respond elapsed words = present format elapsed c.command.report := by
    rw [respond, h]
  rw [hrespond]
  constructor
  case accepted_iff => exact ElementCommand.exists_reads_iff
  case accepted_or_rejected =>
    rw [ElementCommand.exists_reads_iff]
    exact accepted_or_firstRejected c.arguments
  case answered =>
    intro d answer hread hanswer
    have htells := ElementCommand.tells_report hread
    rw [hanswer] at htells
    generalize c.command.report = report at htells ⊢
    cases htells with
    | elements carries answer_eq shows => exact ⟨_, shows.printed carries answer_eq format elapsed⟩
  case unanswered =>
    intro d e hread hanswer
    have htells := ElementCommand.tells_report hread
    rw [hanswer] at htells
    generalize c.command.report = report at htells ⊢
    cases htells
    exact output_failure _ _ _
  case rejected =>
    intro name text e hfirst
    rw [Command.report, ElementCommand.run_of_firstRejected Production.primitives () hfirst]
    exact output_failure _ _ _

/-- The public key of 1 is the abscissa of the generator. -/
theorem answer_publicKey_one :
    (Bridge.publicKey Production.primitives (U256.ofNat 1).encode.toList ()).answer
      = .ok (Bridge.wire Bridge.baseX) :=
  Bridge.publicKey_eq_ok_iff.2
    ⟨Bridge.baseX, Production.publicKey_eq_value_iff.2 (by decide +kernel), rfl⟩

/-- The public key of 1 is printed as JSON; and of two texts that are no hex texts the first is
reported. -/
theorem respond_key_and_rejected_text :
    (parse ["--format", "json", "public-key", "--", "0x1"]
        = .ok ⟨.json, (ElementCommand.publicKey "0x1").command⟩ ∧
      ∃ as, (ElementCommand.publicKey "0x1").Printed ⟨0, ""⟩ .json
        (.bytes (Bridge.wire Bridge.baseX).toList) as
        (respond ⟨0, ""⟩ ["--format", "json", "public-key", "--", "0x1"])) ∧
    (parse ["pedersen-many", "--", "0x1", "oops", "0xg"]
        = .ok ⟨.text, (ElementCommand.pedersenMany ["0x1", "oops", "0xg"]).command⟩ ∧
      respond ⟨0, ""⟩ ["pedersen-many", "--", "0x1", "oops", "0xg"]
        = ⟨1, [], ["Error: Invalid element: oops", "", "Caused by:",
            "    0: invalid hex: Invalid character 'o' at position 60",
            "    1: Invalid character 'o' at position 60"]⟩) := by
  have hone : U256.ofHex "0x1" = .ok (.ofNat 1) := by cbv
  refine ⟨?_, ?_⟩
  · have hparse := ElementCommand.parse_words (c := .publicKey "0x1") (fun _ h => by cases h) .json
    refine ⟨hparse, (respond_elements ⟨0, ""⟩ hparse).answered (d := .publicKey (.ofNat 1))
      (congrArg _ hone) ?_⟩
    rw [ElementCommand.operation, Bridge.Operation.run, Bridge.Run.answer_map, answer_publicKey_one]
    rfl
  · have hoops : U256.ofHex "oops" = .error (.invalidCharacter 111 60) := by cbv
    have hparse := ElementCommand.parse_words (c := .pedersenMany ["0x1", "oops", "0xg"])
      (fun _ h => by cases h) .text
    have hout := (respond_elements ⟨0, ""⟩ hparse).rejected (.later hone (.here hoops))
    exact ⟨hparse, hout.trans (by decide +kernel)⟩

end CommandLine
end StarkWire
