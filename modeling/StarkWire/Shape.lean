/-
# Size checks

Every argument is checked for its size before it is read, and the check names the argument that
fails.  A grid must have the wanted number of rows; then the first row of another length is the
fault.
-/

import StarkWire.U256

namespace StarkWire

/-- An argument whose size is not the fixed one. -/
inductive SizeError where
  /-- A byte buffer of the wrong length. -/
  | length (argument : String) (expected actual : Nat)
  /-- A missing buffer where bytes were announced. -/
  | nullBuffer (argument : String)
  /-- A grid with the wrong number of rows. -/
  | gridRows (expected actual : Nat)
  /-- A grid row with the wrong number of columns. -/
  | gridColumns (row expected actual : Nat)
deriving DecidableEq

namespace SizeError

/-- The message of a size error. -/
def message : SizeError → String
  | .length argument expected actual =>
    "argument `" ++ argument ++ "` must be " ++ toString expected ++ " bytes, got "
      ++ toString actual
  | .nullBuffer argument => "argument `" ++ argument ++ "` is a null pointer"
  | .gridRows expected actual =>
    "state grid must have " ++ toString expected ++ " rows, got " ++ toString actual
  | .gridColumns row expected actual =>
    "state grid row " ++ toString row ++ " must have " ++ toString expected ++ " columns, got "
      ++ toString actual

end SizeError

/-- Rows of limbs, of any shape. -/
abbrev Grid := List (List UInt64)

/-- The buffer as `n` bytes. -/
def checkLength (argument : String) (n : Nat) (buffer : Buffer) : Except SizeError (Bytes n) :=
  match Bytes.ofBuffer? n buffer with
  | some bytes => .ok bytes
  | none => .error (.length argument n buffer.length)

/-- The value of a 32-byte argument. -/
def readElement (argument : String) (buffer : Buffer) : Except SizeError U256 :=
  (checkLength argument U256.size buffer).map U256.decode

/-- The rows from number `row` on are `cols` long. -/
def checkRows (cols : Nat) : (row : Nat) → Grid → Except SizeError Unit
  | _, [] => .ok ()
  | row, values :: rest =>
    if values.length ≠ cols then .error (.gridColumns row cols values.length)
    else checkRows cols (row + 1) rest

/-- The grid has `rows` rows, each `cols` long. -/
def checkGridShape (grid : Grid) (rows cols : Nat) : Except SizeError Unit :=
  if grid.length ≠ rows then .error (.gridRows rows grid.length)
  else checkRows cols 0 grid

end StarkWire
