/-
# Commands about elements

Five commands are answered with elements: three hashes, a public key and a permuted state.  An
`ElementCommand` is one of them with its arguments, which are texts on the command line and values
once they have been read (`ElementCommand.Reads`).  The texts are read in their order, and the
first that is no hex text is the failure (`readTexts_of_firstRejected`).

The command line can give any texts to these commands: after `--` no word is taken for an option
(`ElementCommand.parse_words`).
-/

import StarkWire.Bridge.Operation
import StarkWire.Proofs.CommandLine.Sign

namespace StarkWire
namespace CommandLine

/-! ### The commands -/

/-- A command that is answered with elements. -/
inductive ElementCommand (α : Type) where
  | pedersen (first second : α)
  | pedersenMany (elements : List α)
  | publicKey (privateKey : α)
  | hades (state : List α)
  | poseidon (elements : List α)

namespace ElementCommand

variable {α β : Type}

/-- The command with its arguments changed. -/
def map (f : α → β) : ElementCommand α → ElementCommand β
  | pedersen first second => pedersen (f first) (f second)
  | pedersenMany elements => pedersenMany (elements.map f)
  | publicKey privateKey => publicKey (f privateKey)
  | hades state => hades (state.map f)
  | poseidon elements => poseidon (elements.map f)

/-- The arguments in order, under the names that they are reported with. -/
def arguments : ElementCommand α → List (String × α)
  | pedersen first second => [("first", first), ("second", second)]
  | pedersenMany elements => elements.map ("element", ·)
  | publicKey privateKey => [("private key", privateKey)]
  | hades state => state.map ("state element", ·)
  | poseidon elements => elements.map ("element", ·)

/-- The command as it is parsed. -/
def command : ElementCommand String → Command
  | pedersen first second => .pedersen first second
  | pedersenMany elements => .pedersenMany elements
  | publicKey privateKey => .publicKey privateKey
  | hades state => .hades state
  | poseidon elements => .poseidon elements

/-- The operation of the bridge on the encodings. -/
def operation : ElementCommand U256 → Bridge.Operation
  | pedersen a b => .pedersen a.encode.toList b.encode.toList
  | pedersenMany as => .pedersenOnElements (as.map fun a => a.encode.toList)
  | publicKey a => .publicKey a.encode.toList
  | hades as => .hades (as.map U256.limbs)
  | poseidon as => .poseidonHashMany (as.map fun a => a.encode.toList)

/-- The texts of one command have the values of the other. -/
def Reads (c : ElementCommand String) (d : ElementCommand U256) : Prop :=
  c.map U256.ofHex = d.map .ok

end ElementCommand

/-! ### Reading the arguments -/

/-- A text that is rejected, with the texts before it accepted. -/
inductive FirstRejected (name text : String) (e : HexError) : List (String × String) → Prop
  | here {rest : List (String × String)} (h : U256.ofHex text = .error e) :
    FirstRejected name text e ((name, text) :: rest)
  | later {other : String × String} {a : U256} {rest : List (String × String)}
    (h : U256.ofHex other.2 = .ok a) (first : FirstRejected name text e rest) :
    FirstRejected name text e (other :: rest)

/-- Unless all texts are accepted, one is the first that is not. -/
theorem accepted_or_firstRejected (arguments : List (String × String)) :
    (∀ argument ∈ arguments, ∃ a, U256.ofHex argument.2 = .ok a) ∨
    ∃ name text e, FirstRejected name text e arguments := by
  induction arguments with
  | nil => exact .inl (List.forall_mem_nil _)
  | cons argument rest ih =>
    rcases h : U256.ofHex argument.2 with e | a
    · exact .inr ⟨argument.1, argument.2, e, .here h⟩
    · rcases ih with hrest | ⟨name, text, e, first⟩
      · exact .inl (List.forall_mem_cons.2 ⟨⟨a, h⟩, hrest⟩)
      · exact .inr ⟨name, text, e, .later h first⟩

/-- The first text that is rejected is the failure. -/
theorem readTexts_of_firstRejected {label name text : String} {e : HexError}
    {texts : List String} (h : FirstRejected name text e (texts.map (label, ·))) :
    readTexts label texts = .error (.ofHexError ("Invalid " ++ name ++ ": " ++ text) e) := by
  induction texts with
  | nil => cases h
  | cons other rest ih =>
    rw [List.map_cons] at h
    cases h with
    | here h =>
      rw [readTexts, readText_eq_error h]
      rfl
    | later h first =>
      rw [readTexts, readText_eq h, ih first]
      rfl

/-- Of several elements, too, the first that is rejected is the failure. -/
theorem readWires_of_firstRejected {name text : String} {e : HexError} {texts : List String}
    (h : FirstRejected name text e (texts.map ("element", ·))) :
    readWires texts = .error (.ofHexError ("Invalid " ++ name ++ ": " ++ text) e) := by
  rw [readWires, readTexts_of_firstRejected h]
  rfl

/-- Texts that are all accepted are read as their values. -/
theorem readTexts_of_map_ofHex {texts : List String} {as : List U256}
    (h : texts.map U256.ofHex = as.map .ok) (name : String) : readTexts name texts = .ok as := by
  induction texts generalizing as with
  | nil =>
    obtain rfl := List.map_eq_nil_iff.1 h.symm
    rfl
  | cons text rest ih =>
    obtain ⟨a, as, rfl, ha, has⟩ := List.map_eq_cons_iff.1 h.symm
    rw [readTexts, readText_eq ha.symm, ih has.symm]
    rfl

/-- Elements that are all accepted are put on the wire in their order. -/
theorem readWires_of_map_ofHex {texts : List String} {as : List U256}
    (h : texts.map U256.ofHex = as.map .ok) :
    readWires texts = .ok (as.map fun a => a.encode.toList) := by
  rw [readWires, readTexts_of_map_ofHex h]
  rfl

namespace ElementCommand

variable {α β γ : Type} {c : ElementCommand String} {d : ElementCommand U256}

/-- A change of the arguments leaves their names as they are. -/
theorem arguments_map (f : α → β) (c : ElementCommand α) :
    (c.map f).arguments = c.arguments.map fun argument => (argument.1, f argument.2) := by
  cases c <;> simp [map, arguments]

/-- Two changes of the arguments one after the other are one. -/
theorem map_map (f : α → β) (g : β → γ) (c : ElementCommand α) :
    (c.map f).map g = c.map fun a => g (f a) := by
  cases c <;> simp [map]

/-- A command depends on its arguments alone. -/
theorem map_congr {f g : α → β} {c : ElementCommand α}
    (h : ∀ argument ∈ c.arguments, f argument.2 = g argument.2) : c.map f = c.map g := by
  cases c <;> simp_all [map, arguments]

/-- A command is read just when each of its texts is accepted. -/
theorem exists_reads_iff :
    (∃ d, c.Reads d) ↔ ∀ argument ∈ c.arguments, ∃ a, U256.ofHex argument.2 = .ok a := by
  constructor
  · -- what an argument of `c` is read as is an argument of `d`
    rintro ⟨d, h⟩ argument hmem
    have harguments := congrArg arguments h
    rw [arguments_map, arguments_map] at harguments
    have hread : (argument.1, U256.ofHex argument.2) ∈
        c.arguments.map fun argument => (argument.1, U256.ofHex argument.2) :=
      List.mem_map_of_mem hmem
    rw [harguments] at hread
    obtain ⟨value, -, hvalue⟩ := List.mem_map.1 hread
    exact ⟨value.2, (congrArg Prod.snd hvalue).symm⟩
  · intro h
    refine ⟨c.map fun text => (U256.ofHex text).toOption.getD .zero, ?_⟩
    rw [Reads, map_map]
    refine map_congr fun argument hmem => ?_
    obtain ⟨a, ha⟩ := h argument hmem
    rw [ha]
    rfl

end ElementCommand

/-! ### Words for a command -/

/-- Words that are all operands give themselves. -/
theorem operands_map_operand (texts : List String) : operands (texts.map .operand) = texts := by
  simp [operands, List.filterMap_map]

/-- Among operands there is no value of an option. -/
theorem values_map_operand (o : OptionName) (texts : List String) :
    values o (texts.map .operand) = [] := by
  simp [values, List.filterMap_map]

/-- Operands without an option between them are one stretch. -/
theorem stretches_map_operand (current : ℕ) (texts : List String) :
    stretches current (texts.map .operand)
      = if current + texts.length = 0 then [] else [current + texts.length] := by
  induction texts generalizing current with
  | nil => rfl
  | cons text rest ih =>
    rw [List.map_cons, stretches, ih, List.length_cons, Nat.add_right_comm, ← Nat.add_assoc]

/-- After the separator every word is an operand, also one that starts with a hyphen. -/
theorem scan_separator (options : List OptionName) (texts : List String) :
    scan options ("--" :: texts) = ⟨texts.map .operand, none⟩ := by
  have h : Word.ofString "--" = .separator := rfl
  rw [scan, h]

/-- After the separator every word is an operand. -/
theorem parseCommand_separator {name : String} {reading : Reading} {texts : List String}
    {command : Command} (hname : name ≠ "help") (hreading : Reading.ofName name = some reading)
    (harity : reading.arity.allows (texts.map .operand) = true)
    (hbuild : reading.build (texts.map .operand) = .ok command) (format : Option Format) :
    parseCommand format name ("--" :: texts) = .ok ⟨format.getD .text, command⟩ := by
  have hadmits : reading.admits (texts.map .operand) = true := by
    simp [Reading.admits, harity, values_map_operand]
  rw [parseCommand, if_neg hname, hreading]
  simp only [scan_separator, value?, values_map_operand, hadmits, hbuild]
  rfl

namespace ElementCommand

variable {c : ElementCommand String}

/-- The name of a command. -/
def name : ElementCommand String → String
  | pedersen _ _ => "pedersen"
  | pedersenMany _ => "pedersen-many"
  | publicKey _ => "public-key"
  | hades _ => "hades"
  | poseidon _ => "poseidon"

/-- The texts of the arguments. -/
def texts (c : ElementCommand String) : List String := c.arguments.map Prod.snd

/-- Words that ask for a command. -/
def words (c : ElementCommand String) : Format → List String
  | .text => c.name :: "--" :: c.texts
  | .json => "--format" :: "json" :: c.name :: "--" :: c.texts

/-- The name of a command is known. -/
theorem exists_reading (c : ElementCommand String) :
    ∃ reading, Reading.ofName c.name = some reading := by
  cases c <;>
    · simp only [name, Reading.ofName]
      exact ⟨_, rfl⟩

/-- A command is made up of its texts as operands. -/
theorem build_texts (h : ∀ state, c = hades state → state.length = 3) {reading : Reading}
    (hreading : Reading.ofName c.name = some reading) :
    reading.arity.allows (c.texts.map .operand) = true ∧
      reading.build (c.texts.map .operand) = .ok c.command := by
  have hsnd (label : String) (texts : List String) :
      (texts.map (label, ·)).map Prod.snd = texts := by simp [Function.comp_def]
  cases c <;> simp only [name, Reading.ofName] at hreading <;>
    obtain rfl := Option.some.inj hreading <;>
    dsimp only [texts, arguments, command, Reading.ofOperands] <;> rw [operands_map_operand]
  case pedersen first second => exact ⟨rfl, rfl⟩
  case publicKey privateKey => exact ⟨rfl, rfl⟩
  case pedersenMany elements => exact ⟨rfl, by rw [hsnd]⟩
  case poseidon elements => exact ⟨rfl, by rw [hsnd]⟩
  case hades state =>
    have hlength : state.length = 3 := h state rfl
    have hne : state ≠ [] := by
      rintro rfl
      cases hlength
    rw [hsnd, if_neg hne]
    simp [Arity.allows, stretches_map_operand, hlength]

/-- Any texts can be given to a command, three of them to `hades`. -/
theorem parse_words (h : ∀ state, c = hades state → state.length = 3) (format : Format) :
    parse (c.words format) = .ok ⟨format, c.command⟩ := by
  obtain ⟨reading, hreading⟩ := c.exists_reading
  obtain ⟨harity, hbuild⟩ := build_texts h hreading
  have hname : Word.ofString c.name = .operand := by cases c <;> (rw [name]; rfl)
  have hhelp : c.name ≠ "help" := by cases c <;> simp [name]
  have hcommand := parseCommand_separator hhelp hreading harity hbuild
  cases format with
  | text =>
    rw [words, parse, parseFrom, hname]
    exact hcommand none
  | json =>
    have hformat : Word.ofString "--format" = .long "format" none := rfl
    have hjson : Format.ofName "json" = .ok .json := rfl
    rw [words, parse, parseFrom, hformat]
    dsimp only
    rw [if_neg (by decide), if_neg (by decide), if_neg (by decide), hjson]
    dsimp only
    rw [parseFrom, hname]
    exact hcommand (some .json)

end ElementCommand
end CommandLine
end StarkWire
