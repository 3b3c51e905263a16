/-
# Words of a command line

A word that starts with two hyphens is a long option, with its value after the first `=` if there
is one.  A word that starts with one hyphen and goes on is a short option; what follows its
letter, less one `=`, is its value.  A value that is not attached is the next word, unless that is
an option too.  After the word `--` every word is an operand.

The words of a command are items up to the first that cannot be one.  What comes before it still
counts: help that is asked for after a fault is not given.
-/

namespace StarkWire
namespace CommandLine

/-- Why there is nothing to carry out. -/
inductive Stop where
  /-- The words do not follow the grammar. -/
  | usage
  /-- Help was asked for. -/
  | help
  /-- The version was asked for. -/
  | version
deriving DecidableEq

/-- What a word looks like by itself. -/
inductive Word where
  /-- A word that is no option. -/
  | operand
  /-- The word `--`. -/
  | separator
  /-- A long option and its attached value. -/
  | long (name : String) (attached : Option String)
  /-- A short option and its attached value. -/
  | short (letter : Char) (attached : Option String)
deriving DecidableEq

namespace Word

/-- The value attached to a long option, from the `=` on. -/
def longValue : List Char → Option String
  | [] => none
  | _ :: value => some (String.ofList value)

/-- The value attached to a short option, from the character after its letter on. -/
def shortValue : List Char → Option String
  | [] => none
  | '=' :: value => some (String.ofList value)
  | value => some (String.ofList value)

/-- What a word is. -/
def ofString (word : String) : Word :=
  match word.toList with
  | ['-', '-'] => separator
  | '-' :: '-' :: body =>
    long (String.ofList (body.takeWhile (· ≠ '='))) (longValue (body.dropWhile (· ≠ '=')))
  | '-' :: letter :: body => short letter (shortValue body)
  | _ => operand

end Word

/-- An option that takes a value. -/
structure OptionName where
  letter : Option Char
  name : String
deriving DecidableEq

/-- One item of a command: an option with its value, or an operand. -/
inductive Item where
  | option (name : OptionName) (value : String)
  | operand (text : String)
deriving DecidableEq

/-- The option that a word names, among those that a command has, and its attached value. -/
def findOption (options : List OptionName) : Word → Except Stop (OptionName × Option String)
  | .long name attached =>
    if name = "help" ∧ attached = none then .error .help
    else
      match options.find? fun o => o.name = name with
      | some o => .ok (o, attached)
      | none => .error .usage
  | .short letter attached =>
    if letter = 'h' then .error .help
    else
      match options.find? fun o => o.letter = some letter with
      | some o => .ok (o, attached)
      | none => .error .usage
  | _ => .error .usage

/-- The items that the words of a command begin with, and what stopped them before the end, if
anything did. -/
structure Scan where
  items : List Item
  stopped : Option Stop
deriving DecidableEq

/-- One more item in front. -/
def Scan.push (item : Item) (s : Scan) : Scan := ⟨item :: s.items, s.stopped⟩

/-- The words of a command that has the options given, read in order. -/
def scan (options : List OptionName) : List String → Scan
  | [] => ⟨[], none⟩
  | word :: rest =>
    match Word.ofString word with
    | .separator => ⟨rest.map .operand, none⟩
    | .operand => (scan options rest).push (.operand word)
    | w =>
      match findOption options w with
      | .error stop => ⟨[], some stop⟩
      | .ok (o, some value) => (scan options rest).push (.option o value)
      | .ok (o, none) =>
        match rest with
        | [] => ⟨[], some .usage⟩
        | value :: rest =>
          if Word.ofString value = .operand then (scan options rest).push (.option o value)
          else ⟨[], some .usage⟩

/-- The values given to an option. -/
def values (o : OptionName) (is : List Item) : List String :=
  is.filterMap fun
    | .option name value => if name = o then some value else none
    | .operand _ => none

/-- The value of an option that may be given. -/
def value? (o : OptionName) (is : List Item) : Option String := (values o is).head?

/-- The value of an option that must be given. -/
def value (o : OptionName) (is : List Item) : Except Stop String :=
  match value? o is with
  | some text => .ok text
  | none => .error .usage

/-- The operands, in order. -/
def operands (is : List Item) : List String :=
  is.filterMap fun
    | .option _ _ => none
    | .operand text => some text

/-- How many operands there are in each stretch of them that no option interrupts, when `current`
operands come before the items. -/
def stretches (current : Nat) : List Item → List Nat
  | [] => if current = 0 then [] else [current]
  | .operand _ :: rest => stretches (current + 1) rest
  | .option _ _ :: rest => (if current = 0 then [] else [current]) ++ stretches 0 rest

end CommandLine
end StarkWire
