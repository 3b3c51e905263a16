/-
# The words of the log

A log is read as a list of records, each with a level, a message and fields (`Event.record`).  What
an operation has to say is told here without its events, by what it is given and what it is answered
(`Operation.records`).

| what happened | level | message | fields |
| --- | --- | --- | --- |
| a key or a nonce is not 32 bytes long | `DEBUG` | `rejected scalar` | `err` |
| another argument is not 32 bytes long | `DEBUG` | `rejected field element` | `err` |
| a signature is not 64 bytes long | `DEBUG` | `rejected signature buffer` | `err` |
| a grid is not three rows of four limbs | `DEBUG` | `rejected poseidon grid` | `err` |
| a call brings a value | `TRACE` | `primitive call completed` | `operation` |
| a call brings a fault | `WARN` | `primitive reported a fault` | `operation`, `fault` |
| a call panics | `WARN` | `primitive panicked` | `operation` |
| a verification turns an error into a refusal | `DEBUG` | `verification did not succeed` | `error` |

Here `err` is the text of what is wrong with the size, `fault` the operation and the detail of the
fault, and `error` the error with all that it carries.

The events say the same: that of a rejected input (`Input.record_of_rejection?`), that of a call
(`Exchange.record_event`), and that of a refused verification (`Event.record_unverified`).
-/

import StarkWire.Proofs.Bridge.Exchange
import StarkWire.Proofs.Bridge.Rejection

namespace StarkWire
namespace Bridge

/-- An entry of the log as it is written. -/
structure Record where
  level : String
  message : String
  fields : List (String × String)
deriving DecidableEq

/-- How an event is written. -/
def Event.record (e : Event) : Record := ⟨e.level.name, e.message, e.fields⟩

/-! ### What there is to say -/

/-- The operation that a call is logged under. -/
def operationText : Request → String
  | .pedersen _ _ => "pedersen"
  | .sign _ _ _ => "sign"
  | .verify _ _ _ _ => "verify"
  | .publicKey _ => "get_public_key"
  | .permute _ => "hades"
  | .nonce _ _ _ => "generate_k"

/-- What there is to say of a call. -/
def callRecord (x : Exchange) : Record :=
  match x.reply with
  | .value _ => ⟨"TRACE", "primitive call completed", [("operation", operationText x.request)]⟩
  | .fault f =>
    ⟨"WARN", "primitive reported a fault",
      [("operation", operationText x.request), ("fault", f.operation ++ ": " ++ f.detail)]⟩
  | .panic => ⟨"WARN", "primitive panicked", [("operation", operationText x.request)]⟩

/-- What there is to say of a verification that is refused because of an error. -/
def refusalRecord (error : String) : Record :=
  ⟨"DEBUG", "verification did not succeed", [("error", error)]⟩

namespace Input

/-- The input has the size that is asked for. -/
def Sized : Input → Prop
  | argument a => a.buffer.length = 32
  | signature buffer => buffer.length = 64
  | grid rows => rows.length = 3 ∧ ∀ row ∈ rows, row.length = 4

instance : DecidablePred Sized
  | argument _ => inferInstanceAs (Decidable (_ = _))
  | signature _ => inferInstanceAs (Decidable (_ = _))
  | grid _ => inferInstanceAs (Decidable (_ ∧ _))

/-- What is wrong with a grid of another shape. -/
def gridText (rows : Grid) : String :=
  if rows.length ≠ 3 then "state grid must have 3 rows, got " ++ toString rows.length
  else
    "state grid row " ++ toString (rows.findIdx (·.length ≠ 4)) ++ " must have 4 columns, got "
      ++ toString (rows.getD (rows.findIdx (·.length ≠ 4)) []).length

/-- What is wrong with an input of another size. -/
def sizeText : Input → String
  | argument a =>
    "argument `" ++ a.name ++ "` must be 32 bytes, got " ++ toString a.buffer.length
  | signature buffer => "argument `signature` must be 64 bytes, got " ++ toString buffer.length
  | grid rows => gridText rows

/-- How an input is called that is rejected. -/
def rejectionText : Input → String
  | argument a =>
    if a.name = "private_key" ∨ a.name = "k" then "rejected scalar" else "rejected field element"
  | signature _ => "rejected signature buffer"
  | grid _ => "rejected poseidon grid"

/-- What there is to say of an input of another size. -/
def record (i : Input) : Record := ⟨"DEBUG", i.rejectionText, [("err", i.sizeText)]⟩

/-- What a verification that has rejected the input adds: of a signature in one buffer nothing, and a
grid is not given to it. -/
def refusal : Input → List Record
  | argument a =>
    [refusalRecord ("InvalidInputSize(Length \x7b argument: \"" ++ a.name
      ++ "\", expected: 32, actual: " ++ toString a.buffer.length ++ " \x7d)")]
  | signature _ => []
  | grid _ => []

end Input

namespace Operation

/-- The operations that answer with a verdict and have no error. -/
def isVerification : Operation → Bool
  | verify .. => true
  | verifySignature .. => true
  | _ => false

/-- **What the log of an operation says** whose requests were answered with `xs`: if some input has
another size, it tells of the first such input, and else of each call; a verification adds why it is
refused. -/
def records (op : Operation) (xs : List Exchange) : List Record :=
  match op.inputs.find? (fun i => ¬ i.Sized) with
  | some i => i.record :: (if op.isVerification then i.refusal else [])
  | none =>
    xs.map callRecord ++
      (if op.isVerification ∧ ∃ x ∈ xs, x.succeeded = false then
        [refusalRecord "UnknownPrimitiveFailure"] else [])

end Operation

/-! ### The texts of the events -/

/-- The middle parts of a message about a length put together first. -/
theorem append_middle {front name a b c back middle : String} (h : a ++ b ++ c = middle) :
    front ++ name ++ a ++ b ++ c ++ back = front ++ name ++ middle ++ back := by
  rw [← h]
  simp only [String.append_assoc]

/-- The text of a wrong length. -/
theorem message_length (name : String) (n : ℕ) : (SizeError.length name 32 n).message
    = "argument `" ++ name ++ "` must be 32 bytes, got " ++ toString n := by
  have h : "` must be " ++ toString 32 ++ " bytes, got " = "` must be 32 bytes, got " := by decide
  exact append_middle h

/-- The text of a signature of the wrong length. -/
theorem message_signature (n : ℕ) : (SizeError.length "signature" 64 n).message
    = "argument `signature` must be 64 bytes, got " ++ toString n := by
  have h : "argument `" ++ "signature" ++ "` must be " ++ toString 64 ++ " bytes, got "
      = "argument `signature` must be 64 bytes, got " := by decide
  exact congrArg (· ++ toString n) h

/-- The text of a wrong number of rows. -/
theorem message_gridRows (n : ℕ) :
    (SizeError.gridRows 3 n).message = "state grid must have 3 rows, got " ++ toString n := by
  have h : "state grid must have " ++ toString 3 ++ " rows, got "
      = "state grid must have 3 rows, got " := by decide
  exact congrArg (· ++ toString n) h

/-- The text of a row of the wrong length. -/
theorem message_gridColumns (row n : ℕ) : (SizeError.gridColumns row 4 n).message
    = "state grid row " ++ toString row ++ " must have 4 columns, got " ++ toString n := by
  have h : " must have " ++ toString 4 ++ " columns, got " = " must have 4 columns, got " := by
    decide
  exact append_middle h

/-- The parts of an error with all its fields, put together around the two that vary. -/
theorem append_fields {start kind left f colon quote name comma g b h c right stop front middle
    back : String}
    (hf : start ++ kind ++ left ++ f ++ colon ++ quote = front)
    (hm : quote ++ comma ++ g ++ colon ++ b ++ comma ++ h ++ colon = middle)
    (hb : right ++ stop = back) :
    start ++ (kind ++ left ++ (f ++ colon ++ (quote ++ name ++ quote) ++ comma
        ++ (g ++ colon ++ b) ++ comma ++ (h ++ colon ++ c)) ++ right) ++ stop
      = front ++ name ++ middle ++ c ++ back := by
  rw [← hf, ← hm, ← hb]
  simp only [String.append_assoc]

/-- A wrong length with all its fields, where the name needs no escapes in quotes. -/
theorem fullText_length {name : String} (n : ℕ)
    (hquoted : Text.quoted name = "\"" ++ name ++ "\"") :
    (Error.invalidInputSize (.length name 32 n)).fullText
      = "InvalidInputSize(Length \x7b argument: \"" ++ name ++ "\", expected: 32, actual: "
        ++ toString n ++ " \x7d)" := by
  have hf : "InvalidInputSize(" ++ "Length" ++ " \x7b " ++ "argument" ++ ": " ++ "\""
      = "InvalidInputSize(Length \x7b argument: \"" := by decide
  have hm : "\"" ++ ", " ++ "expected" ++ ": " ++ toString 32 ++ ", " ++ "actual" ++ ": "
      = "\", expected: 32, actual: " := by decide
  have hb : " \x7d" ++ ")" = " \x7d)" := by decide
  have hfields := congrArg (fun quoted => "InvalidInputSize(" ++ recordText "Length"
    [("argument", quoted), ("expected", toString 32), ("actual", toString n)] ++ ")") hquoted
  exact hfields.trans (append_fields hf hm hb)

/-- An event of a refused verification. -/
theorem Event.record_unverified (e : Error) :
    (Event.unverified e).record = refusalRecord e.fullText := rfl

/-- The event of a call says what there is to say of it. -/
theorem Exchange.record_event (x : Exchange) : x.event.record = callRecord x := by
  rcases x with ⟨q, a | f | _⟩ <;> cases q <;> rfl

/-! ### Rejected inputs -/

/-- The first row of another length is the fault of a grid with three rows. -/
theorem findSome?_zipIdx_row (grid : Grid) (k : ℕ) :
    (grid.zipIdx k).findSome? (fun (row, i) =>
        if row.length = 4 then none else some (SizeError.gridColumns i 4 row.length))
      = if ∀ row ∈ grid, row.length = 4 then none
        else some (.gridColumns (k + grid.findIdx (·.length ≠ 4)) 4
          (grid.getD (grid.findIdx (·.length ≠ 4)) []).length) := by
  induction grid generalizing k with
  | nil => simp
  | cons row rest ih =>
    rw [List.zipIdx_cons, List.findSome?_cons, List.findIdx_cons]
    by_cases h : row.length = 4
    · simp only [h, ih, List.forall_mem_cons, true_and, if_true, ne_eq, not_true_eq_false,
        decide_false, cond_false, List.getD_cons_succ, Nat.add_right_comm k 1, Nat.add_assoc]
    · simp [h]

/-- A grid is at fault unless it has the shape that is asked for. -/
theorem gridFault_eq (rows : Grid) :
    gridFault rows = if (Input.grid rows).Sized then none
      else some (if rows.length ≠ 3 then .gridRows 3 rows.length
        else .gridColumns (rows.findIdx (·.length ≠ 4)) 4
          (rows.getD (rows.findIdx (·.length ≠ 4)) []).length) := by
  rw [gridFault, findSome?_zipIdx_row, Nat.zero_add]
  by_cases hlen : rows.length = 3
  · simp only [Input.Sized, hlen, ne_eq, not_true_eq_false, if_false, true_and]
  · simp only [Input.Sized, hlen, ne_eq, not_false_eq_true, if_true, false_and, if_false]

namespace Input

/-- An input is rejected unless it has the size that is asked for. -/
theorem rejection?_eq_none_iff {i : Input} : i.rejection? = none ↔ i.Sized := by
  cases i with
  | argument a => simp [rejection?, Sized]
  | signature buffer => simp [rejection?, Sized]
  | grid rows => simp [rejection?, gridFault_eq]

/-- A key and a nonce are the arguments that are scalars. -/
def Labelled : Input → Prop
  | argument a => a.role = if a.name = "private_key" ∨ a.name = "k" then .scalar else .element
  | signature _ => True
  | grid _ => True

/-- The event of a rejected input says what there is to say of it. -/
theorem record_of_rejection? {i : Input} {e : Rejection} (hi : i.Labelled)
    (h : i.rejection? = some e) : (Event.rejected e).record = i.record := by
  cases i with
  | argument a =>
    rw [rejection?, Option.ite_none_left_eq_some] at h
    obtain ⟨-, h⟩ := h
    obtain rfl := Option.some.inj h
    -- the name tells a scalar from an element, as its role does
    have hrole : "rejected " ++ a.role.label = (argument a).rejectionText := by
      rw [Labelled] at hi
      rw [hi, rejectionText]
      split_ifs <;> decide
    have hsize := message_length a.name a.buffer.length
    exact congrArg₂ (fun message err => Record.mk "DEBUG" message [("err", err)]) hrole hsize
  | signature buffer =>
    rw [rejection?, Option.ite_none_left_eq_some] at h
    obtain ⟨-, h⟩ := h
    obtain rfl := Option.some.inj h
    exact congrArg (fun err => Record.mk "DEBUG" "rejected signature buffer" [("err", err)])
      (message_signature buffer.length)
  | grid rows =>
    rw [rejection?, gridFault_eq, Option.map_eq_some_iff] at h
    obtain ⟨fault, hfault, rfl⟩ := h
    rw [Option.ite_none_left_eq_some] at hfault
    obtain rfl := Option.some.inj hfault.2
    have hsize : (if rows.length ≠ 3 then SizeError.gridRows 3 rows.length
        else .gridColumns (rows.findIdx (·.length ≠ 4)) 4
          (rows.getD (rows.findIdx (·.length ≠ 4)) []).length).message
        = gridText rows := by
      unfold gridText
      split_ifs
      · exact message_gridRows _
      · exact message_gridColumns _ _
    exact congrArg (fun err => Record.mk "DEBUG" "rejected poseidon grid" [("err", err)]) hsize

/-- The names of what is verified need no escapes in quotes. -/
theorem quoted_eq {name : String} (h : name ∈ ["public_key", "hash", "r", "w"]) :
    Text.quoted name = "\"" ++ name ++ "\"" := by
  simp only [List.mem_cons, List.not_mem_nil, or_false] at h
  rcases h with rfl | rfl | rfl | rfl <;> decide +kernel

/-- The event of a refused verification says which of its arguments was rejected. -/
theorem refusal_of_element {i : Input} {e : Rejection} {name : String} {buffer : Buffer}
    (hname : name ∈ ["public_key", "hash", "r", "w"]) (helement : i = .element name buffer)
    (h : i.rejection? = some e) :
    [(Event.unverified (.invalidInputSize e.error)).record] = i.refusal := by
  subst helement
  rw [element, rejection?, Option.ite_none_left_eq_some] at h
  obtain rfl := Option.some.inj h.2
  rw [Event.record_unverified, fullText_length _ (quoted_eq hname)]
  rfl

end Input

namespace Operation

variable {op : Operation}

/-- Every operation calls its inputs by names that tell the scalars from the elements. -/
theorem labelled_of_mem_inputs (op : Operation) : ∀ i ∈ op.inputs, i.Labelled := by
  cases op with
  | signDeterministic d m seed =>
    cases seed <;> simp [inputs, Input.Labelled, Input.element, Input.scalar]
  | _ => simp [inputs, Input.Labelled, Input.element, Input.scalar]

/-- The first rejection is that of the first input of another size. -/
theorem exists_find?_of_rejection? {e : Rejection} (h : op.rejection? = some e) :
    ∃ i, op.inputs.find? (fun i => ¬ i.Sized) = some i ∧ i.rejection? = some e := by
  obtain ⟨before, i, after, hinputs, hi, hbefore⟩ := List.findSome?_eq_some_iff.1 h
  refine ⟨i, List.find?_eq_some_iff_append.2 ⟨?_, before, after, hinputs, fun x hx => ?_⟩, hi⟩
  · have hnot : ¬ i.Sized := fun hs => by
      rw [Input.rejection?_eq_none_iff.2 hs] at hi
      cases hi
    exact decide_eq_true hnot
  · simpa using Input.rejection?_eq_none_iff.1 (hbefore x hx)

/-- Without a rejection all inputs have the size that is asked for. -/
theorem find?_of_rejection?_eq_none (h : op.rejection? = none) :
    op.inputs.find? (fun i => ¬ i.Sized) = none :=
  List.find?_eq_none.2 fun i hi => by
    simpa using Input.rejection?_eq_none_iff.1 (List.findSome?_eq_none_iff.1 h i hi)

/-- What a verification adds to a rejection says why it is refused. -/
theorem records_epilogue_rejected {i : Input} {e : Rejection}
    (hfirst : op.inputs.find? (fun i => ¬ i.Sized) = some i) (hi : i.rejection? = some e) :
    (op.epilogue (.invalidInputSize e.error)).map Event.record
      = if op.isVerification then i.refusal else [] := by
  have hmem := List.mem_of_find?_eq_some hfirst
  cases op with
  | verify q h r w =>
    simp only [inputs, List.mem_cons, List.not_mem_nil, or_false] at hmem
    rcases hmem with hmem | hmem | hmem | hmem
    · exact Input.refusal_of_element (by decide) hmem hi
    · exact Input.refusal_of_element (by decide) hmem hi
    · exact Input.refusal_of_element (by decide) hmem hi
    · exact Input.refusal_of_element (by decide) hmem hi
  | verifySignature q h signature =>
    -- a signature of the wrong length is rejected before all else, and then nothing is added
    by_cases hs : signature.length = 64
    · have hepilogue : epilogue (.verifySignature q h signature) = fun e => [.unverified e] := by
        funext e
        exact if_pos hs
      rw [hepilogue]
      simp only [inputs, List.mem_cons, List.not_mem_nil, or_false] at hmem
      rcases hmem with rfl | hmem | hmem
      · have hbad : ¬ Input.Sized (.signature signature) := by simpa using List.find?_some hfirst
        exact absurd hs hbad
      · exact Input.refusal_of_element (by decide) hmem hi
      · exact Input.refusal_of_element (by decide) hmem hi
    · have hepilogue : epilogue (.verifySignature q h signature) = fun _ => [] := by
        funext e
        exact if_neg hs
      have hhead : (inputs (.verifySignature q h signature)).find? (fun i => ¬ i.Sized)
          = some (.signature signature) := List.find?_cons_of_pos (decide_eq_true hs)
      obtain rfl := Option.some.inj (hhead.symm.trans hfirst)
      rw [hepilogue]
      rfl
  | _ => rfl

end Operation
end Bridge
end StarkWire
