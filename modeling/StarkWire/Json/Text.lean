/-
# JSON strings

A string is written in double quotes, with an escape for the quote, the backslash and the
controls.

| escape | stands for |
| --- | --- |
| backslash and one of `"` `\` `/` | that character |
| backslash and one of `b` `f` | backspace, form feed |
| backslash and one of `n` `r` `t` | line feed, carriage return, tab |
| backslash, `u` and four hex digits | the code unit with this number |

A code point above `FFFF` takes two units, a leading one from `D800` to `DBFF` and a trailing one
from `DC00` to `DFFF`; neither may stand alone in a string that is read.  In a string that is
passed over the units are not looked at, only their digits.
-/

import StarkWire.Json.ReadError
import StarkWire.U256.Hex

namespace StarkWire
namespace Json

/-- The value of a hex digit. -/
def hexDigitOfChar? (c : Char) : Option Nat :=
  if c.toNat < 128 then hexDigit? c.toUInt8 else none

/-- The number of four hex digits. -/
def unitOfDigits? (a b c d : Char) : Option Nat := do
  let a ← hexDigitOfChar? a
  let b ← hexDigitOfChar? b
  let c ← hexDigitOfChar? c
  let d ← hexDigitOfChar? d
  return 4096 * a + 256 * b + 16 * c + d

/-- The problem with fewer than four characters where four digits are wanted: the text ends too
early if not even four bytes are left. -/
def shortUnit (cs : List Char) : ReadError :=
  if (cs.flatMap String.utf8EncodeChar).length < 4 then .truncated else .malformed

/-- Whether a unit is the first of two. -/
def isLeading (unit : Nat) : Bool := 0xD800 ≤ unit && unit ≤ 0xDBFF

/-- Whether a unit is the second of two. -/
def isTrailing (unit : Nat) : Bool := 0xDC00 ≤ unit && unit ≤ 0xDFFF

/-- The character of two units. -/
def pairedChar (leading trailing : Nat) : Char :=
  .ofNat (0x10000 + 1024 * (leading - 0xD800) + (trailing - 0xDC00))

/-- The character of an escape of one letter. -/
def escapedChar? (c : Char) : Option Char :=
  match c with
  | '"' => some '"'
  | '\\' => some '\\'
  | '/' => some '/'
  | 'b' => some '\x08'
  | 'f' => some '\x0c'
  | 'n' => some '\n'
  | 'r' => some '\r'
  | 't' => some '\t'
  | _ => none

/-- A character put before the text that was read. -/
def consRead (c : Char) : List Char × List Char → List Char × List Char
  | (text, rest) => (c :: text, rest)

/-- The text of a string whose opening quote has been passed, and what follows it. -/
def readString : List Char → Except ReadError (List Char × List Char)
  | [] => .error .truncated
  | '"' :: rest => .ok ([], rest)
  | ['\\'] => .error .truncated
  | '\\' :: 'u' :: rest =>
    match rest with
    | a :: b :: c :: d :: rest =>
      match unitOfDigits? a b c d with
      | none => .error .malformed
      | some unit =>
        if isTrailing unit then .error .malformed
        else if isLeading unit then
          match rest with
          | [] => .error .truncated
          | ['\\'] => .error .truncated
          | '\\' :: 'u' :: rest =>
            match rest with
            | e :: f :: g :: h :: rest =>
              match unitOfDigits? e f g h with
              | none => .error .malformed
              | some trailing =>
                if isTrailing trailing then
                  (readString rest).map (consRead (pairedChar unit trailing))
                else .error .malformed
            | short => .error (shortUnit short)
          | _ => .error .malformed
        else (readString rest).map (consRead (.ofNat unit))
    | short => .error (shortUnit short)
  | '\\' :: c :: rest =>
    match escapedChar? c with
    | some e => (readString rest).map (consRead e)
    | none => .error .malformed
  | c :: rest =>
    if c.toNat < 32 then .error .malformed else (readString rest).map (consRead c)
termination_by structural cs => cs

/-- What follows a string whose opening quote has been passed. -/
def passString : List Char → Except ReadError (List Char)
  | [] => .error .truncated
  | '"' :: rest => .ok rest
  | ['\\'] => .error .truncated
  | '\\' :: 'u' :: rest =>
    match rest with
    | a :: b :: c :: d :: rest =>
      match unitOfDigits? a b c d with
      | some _ => passString rest
      | none => .error .malformed
    | short => .error (shortUnit short)
  | '\\' :: c :: rest =>
    match escapedChar? c with
    | some _ => passString rest
    | none => .error .malformed
  | c :: rest => if c.toNat < 32 then .error .malformed else passString rest
termination_by structural cs => cs

/-- A string with one more character was read if the rest of it was. -/
theorem ok_of_map_consRead {c : Char} {cs text rest : List Char}
    (h : (readString cs).map (consRead c) = .ok (text, rest)) :
    ∃ tail, readString cs = .ok (tail, rest) := by
  cases hr : readString cs with
  | error e => rw [hr] at h; cases h
  | ok p => rw [hr] at h; cases h; exact ⟨p.1, rfl⟩

/-- To read a string makes a text shorter: there is its closing quote at least. -/
theorem length_readString_lt {cs text rest : List Char} (h : readString cs = .ok (text, rest)) :
    rest.length < cs.length := by
  fun_induction readString cs generalizing text <;> simp_all
  all_goals
    rename_i ih
    obtain ⟨_, h⟩ := ok_of_map_consRead h
    have := ih h
    omega

/-- To pass a string makes a text shorter. -/
theorem length_passString_lt {cs rest : List Char} (h : passString cs = .ok rest) :
    rest.length < cs.length := by
  fun_induction passString cs <;> simp_all <;> omega

/-- A character inside a string. -/
def writeChar (c : Char) : List Char :=
  if c = '"' ∨ c = '\\' then ['\\', c]
  else if c = '\x08' then ['\\', 'b']
  else if c = '\x0c' then ['\\', 'f']
  else if c = '\n' then ['\\', 'n']
  else if c = '\r' then ['\\', 'r']
  else if c = '\t' then ['\\', 't']
  else if c.toNat < 32 then ['\\', 'u'] ++ hexDigits 4 c.toNat
  else [c]

/-- A text as a string. -/
def writeString (text : List Char) : List Char := '"' :: text.flatMap writeChar ++ ['"']

end Json
end StarkWire
