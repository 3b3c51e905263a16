/-
# Errors of the bridge

An operation fails because an argument has the wrong size or because a primitive failed.  The
message depends on nothing but which of the two it is; the size error stays reachable as the
cause.

| error | message | status |
| --- | --- | --- |
| wrong size | `Invalid field element provided.` | -1 |
| failed primitive | `Unknown crypto-cpp exception.` | -2 |
-/

import StarkWire.Shape
import StarkWire.Text.Escape

namespace StarkWire
namespace Bridge

/-- Why an operation failed. -/
inductive Error where
  /-- An argument of the wrong size. -/
  | invalidInputSize (cause : SizeError)
  /-- A primitive that reported a fault or panicked. -/
  | unknownPrimitiveFailure
deriving DecidableEq

/-- The broad class of an error. -/
inductive ErrorKind where
  | illegalArgument
  | failure
deriving DecidableEq

/-- The message of every argument error. -/
def invalidArgumentMessage : String := "Invalid field element provided."

/-- The message of every failed primitive. -/
def unknownFailureMessage : String := "Unknown crypto-cpp exception."

namespace Error

/-- The message. -/
def message : Error → String
  | invalidInputSize _ => invalidArgumentMessage
  | unknownPrimitiveFailure => unknownFailureMessage

/-- The class. -/
def kind : Error → ErrorKind
  | invalidInputSize _ => .illegalArgument
  | unknownPrimitiveFailure => .failure

/-- The size error behind an argument error. -/
def cause : Error → Option SizeError
  | invalidInputSize e => some e
  | unknownPrimitiveFailure => none

/-- The status number of a failed call. -/
def status (e : Error) : Int :=
  match e.kind with
  | .illegalArgument => -1
  | .failure => -2

end Error

/-- The status number of a call that succeeded. -/
def statusOk : Int := 0

/-- A name and fields, each with its own name, as a log shows them. -/
def recordText (name : String) (fields : List (String × String)) : String :=
  name ++ " \x7b " ++ ", ".intercalate (fields.map fun (field, value) => field ++ ": " ++ value)
    ++ " \x7d"

/-- A size error with all its fields. -/
def sizeErrorText : SizeError → String
  | .length argument expected actual =>
    recordText "Length" [("argument", Text.quoted argument), ("expected", toString expected),
      ("actual", toString actual)]
  | .nullBuffer argument => recordText "NullBuffer" [("argument", Text.quoted argument)]
  | .gridRows expected actual =>
    recordText "GridRows" [("expected", toString expected), ("actual", toString actual)]
  | .gridColumns row expected actual =>
    recordText "GridColumns" [("row", toString row), ("expected", toString expected),
      ("actual", toString actual)]

/-- An error with all its fields. -/
def Error.fullText : Error → String
  | .invalidInputSize e => "InvalidInputSize(" ++ sizeErrorText e ++ ")"
  | .unknownPrimitiveFailure => "UnknownPrimitiveFailure"

end Bridge
end StarkWire
