/-
# JSON numbers

A number is an optional minus sign, an integer part without superfluous leading zeros, an optional
fraction and an optional exponent.

Without fraction and exponent it is an integer if it fits in 64 bits, unsigned without the sign
and signed with it; minus zero and everything else is a floating-point number.  This is the
significand, kept to what fits in 64 bits, times or divided by a power of ten.
-/

import StarkWire.Decimal.Shortest
import StarkWire.Json.ReadError

namespace StarkWire
namespace Json

/-- A number as it is shown when it is not wanted. -/
inductive Number where
  /-- An integer of 64 bits. -/
  | integer (value : Int)
  /-- A floating-point number, by its sign and magnitude. -/
  | float (negative : Bool) (magnitude : Float)

/-- The kind of a number and its text. -/
def Number.label : Number → String
  | integer value => "integer `" ++ toString value ++ "`"
  | float negative magnitude =>
    "floating point `" ++ (if negative then "-" else "") ++ Decimal.magnitudeText magnitude ++ "`"

/-- `2 ^ 64`, which a significand stays below. -/
def significandBound : Nat := 0x10000000000000000

/-- `2 ^ 63`, the largest magnitude of a negative integer. -/
def negativeBound : Nat := 0x8000000000000000

/-- The value of a decimal digit. -/
def digitValue (c : Char) : Nat := c.toNat - 48

/-- Digits appended to a significand as long as it stays below the bound, and how many are left.
-/
def appendDigits : Nat → List Char → Nat × Nat
  | significand, [] => (significand, 0)
  | significand, c :: rest =>
    let next := 10 * significand + digitValue c
    if next < significandBound then appendDigits next rest else (significand, rest.length + 1)

/-- `10 ^ n` as a floating-point number. -/
def powerOfTen (n : Nat) : Float := .ofScientific 1 false n

/-- The largest power of ten that is a finite floating-point number. -/
def maxPowerOfTen : Nat := 308

/-- A floating-point number divided by `10 ^ n`. -/
def divideByPower (f : Float) (n : Nat) : Float :=
  if n ≤ maxPowerOfTen then f / powerOfTen n
  else if f == 0 then f
  else divideByPower (f / powerOfTen maxPowerOfTen) (n - maxPowerOfTen)
termination_by n
decreasing_by
  have : maxPowerOfTen = 308 := rfl
  omega

/-- A significand times a power of ten, if that is finite. -/
def scale? (significand : Nat) (exponent : Int) : Option Float :=
  let f := (UInt64.ofNat significand).toFloat
  if exponent < 0 then some (divideByPower f exponent.natAbs)
  else if significand = 0 then some f
  else if exponent.toNat ≤ maxPowerOfTen then
    let g := f * powerOfTen exponent.toNat
    if g.isInf then none else some g
  else none

/-- A floating-point number from its parts. -/
def floatNumber (negative : Bool) (significand : Nat) (exponent : Int) : Except ReadError Number :=
  match scale? significand exponent with
  | some f => .ok (.float negative f)
  | none => .error .malformed

/-- A number without fraction and exponent. -/
def integerNumber (negative : Bool) (value : Nat) : Number :=
  if !negative then .integer value
  else if value = 0 ∨ negativeBound < value then .float true (UInt64.ofNat value).toFloat
  else .integer (-(value : Int))

/-- The digits that a text starts with, and what follows them. -/
def splitDigits (cs : List Char) : List Char × List Char := cs.span Char.isDigit

/-- At least one digit, and what follows. -/
def readDigits (cs : List Char) : Except ReadError (List Char × List Char) :=
  match splitDigits cs with
  | ([], []) => .error .truncated
  | ([], _ :: _) => .error .malformed
  | split => .ok split

/-- The digits of an integer part, which do not start with a zero before another digit. -/
def readIntegerPart (cs : List Char) : Except ReadError (List Char × List Char) := do
  let (digits, rest) ← readDigits cs
  match digits with
  | '0' :: _ :: _ => .error .malformed
  | _ => return (digits, rest)

/-- The exponent after its letter. -/
def readExponent (cs : List Char) : Except ReadError Int := do
  let (negative, cs) := match cs with
    | '-' :: rest => (true, rest)
    | '+' :: rest => (false, rest)
    | _ => (false, cs)
  let (digits, _) ← readDigits cs
  let value : Int := digits.foldl (fun n c => 10 * n + digitValue c) (0 : Nat)
  return if negative then -value else value

/-- Whether a letter starts an exponent. -/
def isExponentMark (c : Char) : Bool := c = 'e' || c = 'E'

/-- A number whose significand has been read, from its exponent on if it has one. -/
def finishFloat (negative : Bool) (significand : Nat) (exponent : Int) (cs : List Char) :
    Except ReadError Number :=
  match cs with
  | c :: rest =>
    if isExponentMark c then do
      floatNumber negative significand (exponent + (← readExponent rest))
    else floatNumber negative significand exponent
  | [] => floatNumber negative significand exponent

/-- The number at the start of a text, after its sign. -/
def readUnsigned (negative : Bool) (cs : List Char) : Except ReadError Number := do
  let (digits, rest) ← readIntegerPart cs
  let (significand, extra) := appendDigits 0 digits
  match rest with
  | '.' :: rest =>
    let (fraction, rest) ← readDigits rest
    let (significand, unread) := appendDigits significand fraction
    finishFloat negative significand (extra - (fraction.length - unread : Nat)) rest
  | c :: _ =>
    if extra = 0 ∧ !isExponentMark c then return integerNumber negative significand
    else finishFloat negative significand extra rest
  | [] =>
    if extra = 0 then return integerNumber negative significand
    else floatNumber negative significand extra

/-- The number at the start of a text. -/
def readNumber (cs : List Char) : Except ReadError Number :=
  match cs with
  | '-' :: rest => readUnsigned true rest
  | _ => readUnsigned false cs

end Json
end StarkWire
