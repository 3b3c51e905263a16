/-
# Hex text of a value

The conventional text is `0x` and the base-16 digits, most significant first.

*Reading* takes one marker `0x` or `0X`, or none, then digits of either case.  Leading zeros are
free; at most 64 digits may remain after them.  The limit counts the UTF-8 bytes of what remains,
the padding to 64 counts its characters, and the digits are read from the bytes of the padded
text, so a fault is reported at its byte in the padded text.  Each two digits are one byte; these
bytes stand most significant first, so in reverse they are the bytes of the value on the wire.

*Writing* goes the same way back, from the wire bytes in reverse to two lowercase digits for each;
leading zeros are left out, and zero is `0x0`.
-/

import StarkWire.U256
import StarkWire.Text.Escape

namespace StarkWire

/-- Why a text is no hex value. -/
inductive HexError where
  /-- No character after the marker. -/
  | empty
  /-- More than 64 bytes after the leading zeros. -/
  | tooLong (digits : Nat)
  /-- The padded text has an odd number of bytes, so they do not pair up. -/
  | oddLength
  /-- A byte that is no digit, and where it stands in the padded text. -/
  | invalidCharacter (byte : UInt8) (position : Nat)
deriving DecidableEq

namespace HexError

/-- What is wrong with the digits themselves, where that is the fault. -/
def digitFault : HexError → Option String
  | .empty => none
  | .tooLong _ => none
  | .oddLength => some "Odd number of digits"
  | .invalidCharacter byte position =>
    some ("Invalid character " ++ Text.quotedChar (Char.ofNat byte.toNat) ++ " at position "
      ++ toString position)

/-- The message of a rejected text. -/
def message : HexError → String
  | .empty => "empty hex string"
  | .tooLong digits =>
    "hex value has " ++ toString digits ++ " digits, at most 64 fit in a field element"
  | e => "invalid hex: " ++ e.digitFault.getD ""

end HexError

/-- The value of an ASCII hex digit of either case. -/
def hexDigit? (b : UInt8) : Option Nat :=
  if 48 ≤ b ∧ b ≤ 57 then some (b.toNat - 48)
  else if 65 ≤ b ∧ b ≤ 70 then some (b.toNat - 55)
  else if 97 ≤ b ∧ b ≤ 102 then some (b.toNat - 87)
  else none

/-- A half of a byte, from the digit at position `i`. -/
def readHexDigit (i : Nat) (b : UInt8) : Except HexError UInt8 :=
  match hexDigit? b with
  | some d => .ok (.ofNat d)
  | none => .error (.invalidCharacter b i)

/-- One byte for two digits, the first of which is its high half, from pair number `i` on.  The
first byte that is no digit is the fault. -/
def readHexPairs : (i : Nat) → List UInt8 → Except HexError (List UInt8)
  | i, high :: low :: rest => do
    let h ← readHexDigit (2 * i) high
    let l ← readHexDigit (2 * i + 1) low
    let bytes ← readHexPairs (i + 1) rest
    .ok ((h <<< 4 ||| l) :: bytes)
  | _, _ => .ok []

/-- The bytes that digits write, two for each. -/
def readHexBytes (digits : List UInt8) : Except HexError (List UInt8) :=
  if digits.length % 2 = 1 then .error .oddLength else readHexPairs 0 digits

/-- The text without one leading `0x` or `0X`. -/
def dropHexMarker : List Char → List Char
  | '0' :: 'x' :: rest => rest
  | '0' :: 'X' :: rest => rest
  | cs => cs

/-- The low `w` digits of a number, most significant first, in lowercase. -/
def hexDigits : Nat → Nat → List Char
  | 0, _ => []
  | w + 1, n => hexDigits w (n / 16) ++ [Nat.digitChar (n % 16)]

/-- Two digits for each byte, the high half first. -/
def hexChars (bytes : List UInt8) : List Char := bytes.flatMap fun b => hexDigits 2 b.toNat

/-- The text of the digits of bytes. -/
def hexOfBytes (bytes : List UInt8) : String := String.ofList (hexChars bytes)

namespace U256

/-- The most digits that a value has. -/
def maxHexDigits : Nat := 64

/-- The value that the characters denote.  The bytes that the padded digits write come most
significant first; in reverse they fill the wire bytes, which are then decoded. -/
def ofHexChars (cs : List Char) : Except HexError U256 :=
  let digits := dropHexMarker cs
  if digits = [] then .error .empty
  else
    let significant := digits.dropWhile (· = '0')
    let bytes := significant.flatMap String.utf8EncodeChar
    if bytes.length > maxHexDigits then .error (.tooLong bytes.length)
    else
      let padded := List.replicate (maxHexDigits - significant.length) 48 ++ bytes
      (readHexBytes padded).map fun bigEndian => decode ((Bytes.zero 32).fill bigEndian.reverse)

/-- The value that a text denotes. -/
def ofHex (s : String) : Except HexError U256 := ofHexChars s.toList

/-- `0x`, then the digits of the wire bytes in reverse, less the zeros in front. -/
def toHexChars (a : U256) : List Char :=
  match (hexChars a.encode.toList.reverse).dropWhile (· = '0') with
  | [] => ['0', 'x', '0']
  | digits => '0' :: 'x' :: digits

/-- The conventional text of a value. -/
def toHex (a : U256) : String := String.ofList a.toHexChars

end U256
end StarkWire
