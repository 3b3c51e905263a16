/-
# Calls over memory

A caller that shares nothing with the bridge but one block of bytes passes places in it: every
input is a pointer and a length, every output a pointer.  A call answers with a status number.

| status | meaning |
| --- | --- |
| 0 | done, and the result is at the output |
| -1 | a null pointer, a wrong length or a wrong shape |
| -2 | a primitive failed |

Verification writes nothing and answers 1 or 0.  All inputs are read before the output is written,
so they may overlap, and a call that fails leaves the block as it was.
-/

import StarkWire.Bridge.Chain

namespace StarkWire
namespace Memory

open Bridge

/-- Where an input lies; a missing start is a null pointer. -/
structure Span where
  start : Option Nat
  length : Nat
deriving DecidableEq

/-- The bytes of an input.  An empty input needs no pointer. -/
def Span.read (memory : Buffer) (argument : String) (span : Span) : Except SizeError Buffer :=
  if span.length = 0 then .ok []
  else
    match span.start with
    | some offset => .ok ((memory.drop offset).take span.length)
    | none => .error (.nullBuffer argument)

/-- A list cut into pieces of `n`, the last one possibly shorter. -/
def pieces {α : Type} (n : Nat) : List α → List (List α)
  | [] => []
  | a :: rest => (a :: rest.take (n - 1)) :: pieces n (rest.drop (n - 1))
termination_by xs => xs.length
decreasing_by
  simp only [List.length_drop, List.length_cons]
  omega

/-- The limbs in a run of bytes. -/
def limbsOfBytes (bytes : List UInt8) : List UInt64 :=
  (pieces U256.limbSize bytes).map fun piece => .ofNat (leValue piece)

/-- The bytes of all limbs of a grid, row after row. -/
def gridBytes (grid : Grid) : List UInt8 := grid.flatten.flatMap U256.limbBytes

/-- `2 ^ 64`, which the number of limbs in a grid stays below. -/
def countBound : Nat := 0x10000000000000000

/-- What a call leaves behind in the caller's sight. -/
structure Outcome where
  status : Int
  memory : Buffer
deriving DecidableEq

/-- The status of a wrong argument. -/
def invalidArgument : Int := -1

/-- Bytes written at the output, or the status of the error. -/
def store (memory : Buffer) (out : Nat) : Except Error (List UInt8) → Outcome
  | .ok bytes => ⟨statusOk, memory.splice out bytes⟩
  | .error e => ⟨e.status, memory⟩

/-- One call. -/
inductive Call where
  | pedersen (first second : Span) (out : Option Nat)
  | sign (privateKey message k : Span) (out : Option Nat)
  | verify (publicKey hash r w : Span)
  | publicKey (privateKey : Span) (out : Option Nat)
  | hades (state : Option Nat) (rows cols : Nat) (out : Option Nat)
deriving DecidableEq

variable {σ : Type} {n : Nat}

/-- A call that never reaches the bridge. -/
def refuse (memory : Buffer) (status : Int) (s : σ) : Run σ Outcome := ⟨⟨status, memory⟩, s, [], []⟩

/-- A call that writes `n` bytes: the output must not be null, then no input may be. -/
def writing (memory : Buffer) (out : Option Nat)
    (operation : Except SizeError (σ → Run σ (Except Error (Bytes n)))) (s : σ) : Run σ Outcome :=
  match out, operation with
  | none, _ => refuse memory invalidArgument s
  | some _, .error e => refuse memory (Error.invalidInputSize e).status s
  | some place, .ok run => (run s).map fun answer => store memory place (answer.map Bytes.toList)

variable (P : Primitives σ)

/-- The permutation of the grid at `state`. -/
def hadesAt (memory : Buffer) (state : Option Nat) (rows cols : Nat) (out : Option Nat) (s : σ) :
    Run σ Outcome :=
  if rows * cols = 0 ∨ countBound ≤ rows * cols then refuse memory invalidArgument s
  else
    match state, out with
    | some start, some place =>
      let bytes := (memory.drop start).take (U256.limbSize * (rows * cols))
      (Bridge.hades P (pieces cols (limbsOfBytes bytes)) s).map fun answer =>
        store memory place (answer.map gridBytes)
    | _, _ => refuse memory invalidArgument s

/-- A call carried out on a block of memory. -/
def Call.run (memory : Buffer) : Call → σ → Run σ Outcome
  | .pedersen first second out =>
    writing memory out do
      let first ← first.read memory "first"
      let second ← second.read memory "second"
      return Bridge.pedersen P first second
  | .sign privateKey message k out =>
    writing memory out do
      let privateKey ← privateKey.read memory "private_key"
      let message ← message.read memory "message"
      let k ← k.read memory "k"
      return Bridge.sign P privateKey message k
  | .verify key hash r w => fun s =>
    let inputs : Except SizeError (Run σ Bool) := do
      let key ← key.read memory "public_key"
      let hash ← hash.read memory "hash"
      let r ← r.read memory "r"
      let w ← w.read memory "w"
      return Bridge.verify P key hash r w s
    match inputs with
    | .ok run => run.map fun valid => ⟨if valid then 1 else 0, memory⟩
    | .error _ => refuse memory 0 s
  | .publicKey privateKey out =>
    writing memory out do
      let privateKey ← privateKey.read memory "private_key"
      return Bridge.publicKey P privateKey
  | .hades state rows cols out => hadesAt P memory state rows cols out

/-- The calls carried out in order, each on the memory and the state that the one before it left.
-/
def Call.runAll : Buffer → List Call → σ → List (Run σ Outcome)
  | _, [], _ => []
  | memory, call :: rest, s =>
    let r := call.run P memory s
    r :: runAll r.answer.memory rest r.state

end Memory
end StarkWire
