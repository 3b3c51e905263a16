/-
# Log events

What an operation does is told by its events: a rejected argument, a primitive call and how it
ended, a verification that an error turned into a refusal.

| event | level |
| --- | --- |
| rejected argument | `DEBUG` |
| completed call | `TRACE` |
| fault or panic in a call | `WARN` |
| verification that did not succeed | `DEBUG` |
-/

import StarkWire.Bridge.Error

namespace StarkWire
namespace Bridge

/-- What kind of argument was rejected. -/
inductive Role where
  /-- A field element. -/
  | element
  /-- A private key or a nonce. -/
  | scalar
  /-- A state grid. -/
  | grid
  /-- A signature in one buffer. -/
  | signature
deriving DecidableEq

/-- The name of a kind of argument. -/
def Role.label : Role → String
  | element => "field element"
  | scalar => "scalar"
  | grid => "poseidon grid"
  | signature => "signature buffer"

/-- An argument of the wrong size. -/
structure Rejection where
  role : Role
  error : SizeError
deriving DecidableEq

/-- How much an event matters. -/
inductive Level where
  | trace
  | debug
  | warn
deriving DecidableEq

/-- The name of a level. -/
def Level.name : Level → String
  | trace => "TRACE"
  | debug => "DEBUG"
  | warn => "WARN"

/-- One thing that happened. -/
inductive Event where
  /-- An argument of the wrong size. -/
  | rejected (rejection : Rejection)
  /-- A primitive call that gave a value. -/
  | completed (operation : String)
  /-- A primitive call that reported a fault. -/
  | faulted (operation fault : String)
  /-- A primitive call that panicked. -/
  | panicked (operation : String)
  /-- A verification refused because of an error. -/
  | unverified (error : Error)
deriving DecidableEq

namespace Event

/-- The level of an event. -/
def level : Event → Level
  | rejected _ => .debug
  | completed _ => .trace
  | faulted _ _ => .warn
  | panicked _ => .warn
  | unverified _ => .debug

/-- The message of an event. -/
def message : Event → String
  | rejected rejection => "rejected " ++ rejection.role.label
  | completed _ => "primitive call completed"
  | faulted _ _ => "primitive reported a fault"
  | panicked _ => "primitive panicked"
  | unverified _ => "verification did not succeed"

/-- The fields of an event, as text. -/
def fields : Event → List (String × String)
  | rejected rejection => [("err", rejection.error.message)]
  | completed operation => [("operation", operation)]
  | faulted operation fault => [("operation", operation), ("fault", fault)]
  | panicked operation => [("operation", operation)]
  | unverified error => [("error", error.fullText)]

end Event
end Bridge
end StarkWire
