/-
# The grammar of the command line

`[--format text|json] COMMAND`, where the option may also stand after the command, there with
precedence, and at most once at each place.

| command | operands | options |
| --- | --- | --- |
| `pedersen` | two | |
| `pedersen-many`, `poseidon` | any number | |
| `public-key` | one | |
| `hades` | three, or several stretches of three | |
| `sign` | none | `-p`, `--private-key`; `-m`, `--hash`; and, if wanted, `-k`, `--k` |
| `verify` | none | `-p`, `--public-key`; `-m`, `--hash`; `-r`, `--r`; `-s`, `--s` |
| `help` | the name of a command, if any | |

An option may be given once.  What may not be there at all, or not twice, is a fault where it
stands; what is missing is one at the end.  So `--help` within a command forgives what is missing,
but not a fault before it.
-/

import StarkWire.CommandLine.Word

namespace StarkWire
namespace CommandLine

/-- How answers are printed. -/
inductive Format where
  /-- One value on a line. -/
  | text
  /-- One JSON document. -/
  | json
deriving DecidableEq

/-- The format of a name. -/
def Format.ofName : String → Except Stop Format
  | "text" => .ok text
  | "json" => .ok json
  | _ => .error .usage

/-- A command with the texts of its arguments. -/
inductive Command where
  | pedersen (first second : String)
  | pedersenMany (elements : List String)
  | sign (privateKey hash : String) (k : Option String)
  | verify (publicKey hash r s : String)
  | publicKey (privateKey : String)
  | hades (state : List String)
  | poseidon (elements : List String)
deriving DecidableEq

/-- A command and how its answer is printed. -/
structure Invocation where
  format : Format
  command : Command
deriving DecidableEq

/-- The option that chooses the format. -/
def formatOption : OptionName := ⟨none, "format"⟩

/-- The option that gives a private key. -/
def privateKeyOption : OptionName := ⟨some 'p', "private-key"⟩

/-- The option that gives a public key. -/
def publicKeyOption : OptionName := ⟨some 'p', "public-key"⟩

/-- The option that gives a message hash. -/
def hashOption : OptionName := ⟨some 'm', "hash"⟩

/-- The option that gives a nonce. -/
def nonceOption : OptionName := ⟨some 'k', "k"⟩

/-- The option that gives the first component of a signature. -/
def rOption : OptionName := ⟨some 'r', "r"⟩

/-- The option that gives the second component of a signature. -/
def sOption : OptionName := ⟨some 's', "s"⟩

/-- Which operands a command takes. -/
inductive Arity where
  /-- At most so many. -/
  | upTo (count : Nat)
  /-- Any number. -/
  | any
  /-- Any number of stretches of so many. -/
  | stretchesOf (count : Nat)
deriving DecidableEq

/-- Whether the operands among the items of a command are such as it takes. -/
def Arity.allows (is : List Item) : Arity → Bool
  | upTo count => (operands is).length ≤ count
  | any => true
  | stretchesOf count => (stretches 0 is).all (· = count)

/-- What is needed to read one command: its own options, its operands, and how its items make it
up when none is out of place. -/
structure Reading where
  options : List OptionName
  arity : Arity
  build : List Item → Except Stop Command

namespace Reading

/-- A command without options of its own, made from its operands. -/
def ofOperands (arity : Arity) (build : List String → Except Stop Command) : Reading :=
  ⟨[], arity, fun is => build (operands is)⟩

/-- The reading of the command with a name. -/
def ofName : String → Option Reading
  | "pedersen" => some <| ofOperands (.upTo 2) fun
    | [first, second] => .ok (.pedersen first second)
    | _ => .error .usage
  | "pedersen-many" => some <| ofOperands .any fun elements => .ok (.pedersenMany elements)
  | "sign" => some ⟨[privateKeyOption, hashOption, nonceOption], .upTo 0, fun is => do
      return .sign (← value privateKeyOption is) (← value hashOption is) (value? nonceOption is)⟩
  | "verify" => some ⟨[publicKeyOption, hashOption, rOption, sOption], .upTo 0, fun is => do
      return .verify (← value publicKeyOption is) (← value hashOption is) (← value rOption is)
        (← value sOption is)⟩
  | "public-key" => some <| ofOperands (.upTo 1) fun
    | [privateKey] => .ok (.publicKey privateKey)
    | _ => .error .usage
  | "hades" => some <| ofOperands (.stretchesOf 3) fun state =>
      if state = [] then .error .usage else .ok (.hades state)
  | "poseidon" => some <| ofOperands .any fun elements => .ok (.poseidon elements)
  | _ => none

/-- The options of a command: its own, and the format. -/
def allOptions (r : Reading) : List OptionName := formatOption :: r.options

/-- Whether no item is out of place, whatever may still be missing: the operands are such as the
command takes, and no option is given twice. -/
def admits (r : Reading) (is : List Item) : Bool :=
  r.arity.allows is && r.allOptions.all fun o => (values o is).length ≤ 1

end Reading

/-- What the words after `help` ask for: help on everything, or on the command that they name. -/
def helpOn : List String → Stop
  | [] => .help
  | [name] => if name = "help" ∨ (Reading.ofName name).isSome then .help else .usage
  | _ => .usage

/-- A command and the words after its name; `format` has been chosen before it. -/
def parseCommand (format : Option Format) (name : String) (words : List String) :
    Except Stop Invocation :=
  if name = "help" then .error (helpOn words)
  else
    match Reading.ofName name with
    | none => .error .usage
    | some reading => do
      let ⟨is, stopped⟩ := scan reading.allOptions words
      let later ← (value? formatOption is).mapM Format.ofName
      match reading.admits is, stopped with
      | false, _ => .error .usage
      | true, some stop => .error stop
      | true, none => return ⟨(later.or format).getD .text, ← reading.build is⟩

/-- The words of a command line; `format` has been chosen before them. -/
def parseFrom (format : Option Format) : List String → Except Stop Invocation
  | [] => .error .usage
  | word :: rest =>
    match Word.ofString word with
    | .operand => parseCommand format word rest
    | .separator => .error .usage
    | .short letter _ =>
      if letter = 'V' then .error .version
      else if letter = 'h' then .error .help
      else .error .usage
    | .long name attached =>
      if name = "version" ∧ attached = none then .error .version
      else if name = "help" ∧ attached = none then .error .help
      else if name ≠ formatOption.name ∨ format.isSome then .error .usage
      else
        match attached, rest with
        | some value, rest =>
          match Format.ofName value with
          | .ok f => parseFrom (some f) rest
          | .error stop => .error stop
        | none, value :: rest =>
          match Format.ofName value with
          | .ok f => parseFrom (some f) rest
          | .error stop => .error stop
        | none, [] => .error .usage

/-- What a command line asks for. -/
def parse (words : List String) : Except Stop Invocation := parseFrom none words

end CommandLine
end StarkWire
