/-
# The grammar of JSON

What may be written, independently of how it is read.  Four characters are blanks.  A string spells
a text, character by character (`Spells`): a character stands for itself, or is escaped by a letter,
by its code unit or by its two code units.  The strings of a value that is passed over need not
spell anything: their code units are not paired (`Loose`).

A value is a constant, a number, a string, a list of values or an object of named values
(`IsValue`).  In a list and an object, blanks may stand around every part.
-/

import StarkWire.Json.Document
import StarkWire.Proofs.U256.HexGrammar

namespace StarkWire
namespace Json

/-- Only blanks. -/
def IsBlank (cs : List Char) : Prop := ∀ c ∈ cs, c ∈ [' ', '\n', '\t', '\r']

/-! ### Strings -/

/-- The letters of the short escapes and the characters that they stand for. -/
def letterEscapes : List (Char × Char) :=
  [('"', '"'), ('\\', '\\'), ('/', '/'), ('b', '\x08'), ('f', '\x0c'), ('n', '\n'), ('r', '\r'),
    ('t', '\t')]

/-- Four hex digits, and the number that they write. -/
structure CodeUnit (digits : List Char) (n : ℕ) : Prop where
  length_eq : digits.length = 4
  isDigit : ∀ c ∈ digits, IsHexDigit c
  value_eq : hexValue digits = n

/-- A character that stands for itself in a string. -/
def IsPlain (c : Char) : Prop := 32 ≤ c.toNat ∧ c ≠ '"' ∧ c ≠ '\\'

/-- What is written in a string for a character. -/
inductive SpellsChar : List Char → Char → Prop
  /-- The character. -/
  | plain {c : Char} (h : IsPlain c) : SpellsChar [c] c
  /-- An escape of one letter. -/
  | letter {l c : Char} (h : (l, c) ∈ letterEscapes) : SpellsChar ['\\', l] c
  /-- Its code unit. -/
  | unit {digits : List Char} {c : Char} (h : CodeUnit digits c.toNat) :
    SpellsChar ('\\' :: 'u' :: digits) c
  /-- Its two code units, each with ten bits of what the code point is above `FFFF`. -/
  | pair {leading trailing : List Char} {c : Char} {high low : ℕ} (hhigh : high < 0x400)
    (hlow : low < 0x400) (hc : c.toNat = 0x10000 + 0x400 * high + low)
    (hleading : CodeUnit leading (0xD800 + high)) (htrailing : CodeUnit trailing (0xDC00 + low)) :
    SpellsChar ('\\' :: 'u' :: leading ++ '\\' :: 'u' :: trailing) c

/-- What is written between the quotes for a text. -/
inductive Spells : List Char → List Char → Prop
  | nil : Spells [] []
  | cons {written text : List Char} {w : List Char} {c : Char} (head : SpellsChar w c)
    (tail : Spells written text) : Spells (w ++ written) (c :: text)

/-- A character or an escape, whether or not it stands for a character. -/
inductive LooseChar : List Char → Prop
  | plain {c : Char} (h : IsPlain c) : LooseChar [c]
  | letter {l c : Char} (h : (l, c) ∈ letterEscapes) : LooseChar ['\\', l]
  | unit {digits : List Char} {n : ℕ} (h : CodeUnit digits n) : LooseChar ('\\' :: 'u' :: digits)

/-- What may be written between quotes. -/
inductive Loose : List Char → Prop
  | nil : Loose []
  | cons {w written : List Char} (head : LooseChar w) (tail : Loose written) :
    Loose (w ++ written)

/-- What is written for a text may be written. -/
theorem Spells.loose {written text : List Char} (h : Spells written text) : Loose written := by
  induction h with
  | nil => exact .nil
  | cons head _ ih =>
    cases head with
    | plain h => exact .cons (.plain h) ih
    | letter h => exact .cons (.letter h) ih
    | unit h => exact .cons (.unit h) ih
    | pair _ _ _ hleading htrailing =>
      rw [List.append_assoc]
      exact .cons (.unit hleading) (.cons (.unit htrailing) ih)

/-! ### Numbers -/

/-- Decimal digits, at least one. -/
structure IsDigits (digits : List Char) : Prop where
  nonempty : digits ≠ []
  isDigit : ∀ c ∈ digits, c.isDigit

/-- Digits that start with a zero only where that is all. -/
structure IsInteger (digits : List Char) : Prop extends IsDigits digits where
  significant : digits.head? = some '0' → digits = ['0']

/-- A point and digits, or nothing. -/
inductive IsFraction : List Char → Prop
  | absent : IsFraction []
  | digits {ds : List Char} (h : IsDigits ds) : IsFraction ('.' :: ds)

/-- A mark, perhaps a sign, and digits, or nothing. -/
inductive IsExponent : List Char → Prop
  | absent : IsExponent []
  | digits {mark : Char} {sign ds : List Char} (hmark : mark = 'e' ∨ mark = 'E')
    (hsign : sign = [] ∨ sign = ['+'] ∨ sign = ['-']) (h : IsDigits ds) :
    IsExponent (mark :: (sign ++ ds))

/-- A number without its sign. -/
inductive IsUnsigned : List Char → Prop
  | parts {integer fraction exponent : List Char} (hi : IsInteger integer)
    (hf : IsFraction fraction) (he : IsExponent exponent) :
    IsUnsigned (integer ++ (fraction ++ exponent))

/-- A number. -/
inductive IsNumber : List Char → Prop
  | positive {cs : List Char} (h : IsUnsigned cs) : IsNumber cs
  | negative {cs : List Char} (h : IsUnsigned cs) : IsNumber ('-' :: cs)

/-! ### Values -/

/-- A value with the blanks around it. -/
structure Item where
  before : List Char
  value : List Char
  after : List Char

namespace Item

/-- The item as it is written. -/
def written (i : Item) : List Char := i.before ++ (i.value ++ i.after)

/-- Nothing but blanks stands around the value. -/
structure Padded (i : Item) : Prop where
  before : IsBlank i.before
  after : IsBlank i.after

end Item

/-- A member of an object: what is between the quotes of its name, and its value, with the blanks
around the name. -/
structure Member where
  before : List Char
  name : List Char
  afterName : List Char
  item : Item

namespace Member

/-- The member as it is written. -/
def written (m : Member) : List Char :=
  m.before ++ '"' :: (m.name ++ '"' :: (m.afterName ++ ':' :: m.item.written))

/-- Nothing but blanks stands around the name and the value. -/
structure Padded (m : Member) : Prop extends m.item.Padded where
  beforeName : IsBlank m.before
  afterName : IsBlank m.afterName

end Member

/-- Parts with commas between them, after blanks; where there are no parts, the blanks alone stand
between the brackets. -/
def commaSeparated (lead : List Char) (parts : List (List Char)) : List Char :=
  lead ++ separated [','] parts

/-- The first part, and then the others with a comma before each. -/
theorem separated_cons (comma p : List Char) (ps : List (List Char)) :
    separated comma (p :: ps) = p ++ ps.flatMap (comma ++ ·) := by
  induction ps generalizing p with
  | nil => exact (List.append_nil p).symm
  | cons q qs ih =>
    rw [separated, ih, List.flatMap_cons, List.append_assoc, List.append_assoc]
    exact List.cons_ne_nil q qs

/-- A value without the blanks around it. -/
inductive IsValue : List Char → Prop
  | word {cs : List Char} (h : cs ∈ ["null".toList, "true".toList, "false".toList]) : IsValue cs
  | number {cs : List Char} (h : IsNumber cs) : IsValue cs
  | string {written : List Char} (h : Loose written) : IsValue ('"' :: (written ++ ['"']))
  | list {lead : List Char} {items : List Item} (hlead : IsBlank lead)
    (hpadded : ∀ i ∈ items, i.Padded) (hvalue : ∀ i ∈ items, IsValue i.value) :
    IsValue ('[' :: (commaSeparated lead (items.map Item.written) ++ [']']))
  | object {lead : List Char} {members : List Member} (hlead : IsBlank lead)
    (hpadded : ∀ m ∈ members, m.Padded) (hname : ∀ m ∈ members, Loose m.name)
    (hvalue : ∀ m ∈ members, IsValue m.item.value) :
    IsValue ('\x7b' :: (commaSeparated lead (members.map Member.written) ++ ['\x7d']))

end Json
end StarkWire
