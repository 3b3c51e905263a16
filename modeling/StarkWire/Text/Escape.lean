/-
# Quoted text

How a character or a text is shown inside a message: in quotes, with what would not print written
as an escape.  A quoted character escapes the single quote and leaves the double quote alone; a
quoted text does the opposite.

| character | shown as |
| --- | --- |
| NUL, tab, line feed, carriage return | `\0`, `\t`, `\n`, `\r` |
| backslash, and the quote in use | a backslash before it |
| any other that does not print | `\u`, then its code in lowercase hex between braces |
| the rest | itself |
-/

import StarkWire.Text.Printable

namespace StarkWire
namespace Text

/-- The digits of `n` in lowercase hex, without leading zeros. -/
def hexCode (n : Nat) : List Char := Nat.toDigits 16 n

/-- One character inside the quotes `quote`. -/
def escapeChar (quote c : Char) : List Char :=
  if c = '\x00' then ['\\', '0']
  else if c = '\t' then ['\\', 't']
  else if c = '\n' then ['\\', 'n']
  else if c = '\r' then ['\\', 'r']
  else if c = '\\' ∨ c = quote then ['\\', c]
  else if isPrintable c then [c]
  else ['\\', 'u', '\x7b'] ++ hexCode c.toNat ++ ['\x7d']

/-- A character in single quotes. -/
def quotedChar (c : Char) : String :=
  String.ofList (['\''] ++ escapeChar '\'' c ++ ['\''])

/-- A text in double quotes. -/
def quoted (s : String) : String :=
  String.ofList (['"'] ++ s.toList.flatMap (escapeChar '"') ++ ['"'])

end Text
end StarkWire
