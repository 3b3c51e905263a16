/-
# Scripted primitives

Primitives that compute a fixed answer to each request, but fail at chosen calls.  Calls are
numbered from 0 and counted whether they fail or not.  A call panics if the script says so; else
it reports a fault if the script says so and the request is one that can; else it is answered.
-/

import StarkWire.Primitive

namespace StarkWire

/-- Which calls fail, and how. -/
structure Script where
  /-- Whether a call panics, by its number. -/
  panics : Nat → Bool
  /-- Whether a call reports a fault, by its number. -/
  faults : Nat → Bool
  /-- The detail of every fault. -/
  detail : String

namespace Script

/-- The reply to call number `n`. -/
def reply (script : Script) (answer : (q : Request) → q.Answer) (q : Request) (n : Nat) :
    Reply q.Answer :=
  if script.panics n then .panic
  else if script.faults n && q.canFault then .fault ⟨q.operation, script.detail⟩
  else .value (answer q)

/-- The primitives that follow a script; their state is the number of calls made. -/
def primitives (script : Script) (answer : (q : Request) → q.Answer) : Primitives Nat :=
  ⟨fun q n => (script.reply answer q n, n + 1)⟩

/-- Simple arithmetic in place of the curve, which tells the arguments of a call apart. -/
def toyAnswer : (q : Request) → q.Answer
  | .pedersen a b => a + 2 * b
  | .sign key message k => (k, key + 2 * message)
  | .verify key message r w => key + message = r + w
  | .publicKey key => key + 1
  | .permute s => ⟨s.s1 + 1, s.s2 + 2, s.s0 + 3⟩
  | .nonce message key seed => message + 2 * key + seed.getD 3

end Script
end StarkWire
