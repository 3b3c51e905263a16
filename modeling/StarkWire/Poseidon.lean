/-
# The Poseidon permutation

The state is three field elements.  The permutation has 91 rounds.  A round adds three constants,
cubes all three elements (the first four rounds and the last four) or only the third (the 83
between), and mixes: with `t` the sum of the three, the new state is `t + 2 s0`, `t - 2 s1`,
`t - 3 s2`.

Constant `i` is the SHA-256 digest of the text `Hades` followed by `i` in decimal, read as a
big-endian number.
-/

import StarkWire.Field
import StarkWire.Hash.Sha256

namespace StarkWire
namespace Poseidon

/-- Three field elements. -/
@[ext] structure State where
  s0 : Fp
  s1 : Fp
  s2 : Fp
deriving DecidableEq

namespace State

/-- The element-by-element sum. -/
def add (s t : State) : State := ⟨s.s0 + t.s0, s.s1 + t.s1, s.s2 + t.s2⟩

/-- The linear step of a round. -/
def mix (s : State) : State :=
  let t := s.s0 + s.s1 + s.s2
  ⟨t + 2 * s.s0, t - 2 * s.s1, t - 3 * s.s2⟩

/-- A round that cubes all three elements. -/
def fullRound (s c : State) : State :=
  let t := s.add c
  mix ⟨t.s0 * t.s0 * t.s0, t.s1 * t.s1 * t.s1, t.s2 * t.s2 * t.s2⟩

/-- A round that cubes the third element only. -/
def partialRound (s c : State) : State :=
  let t := s.add c
  mix ⟨t.s0, t.s1, t.s2 * t.s2 * t.s2⟩

end State

/-- Constant number `i`. -/
def constant (i : Nat) : Fp :=
  .ofNat (beValue (Sha256.hash (("Hades" ++ toString i).toList.flatMap String.utf8EncodeChar)))

/-- The three constants of each of the 91 rounds. -/
def roundConstants : List State :=
  (List.range 91).map fun r => ⟨constant (3 * r), constant (3 * r + 1), constant (3 * r + 2)⟩

/-- The permutation with given round constants: four full rounds, 83 partial ones, the rest full.
-/
def permuteWith (constants : List State) (s : State) : State :=
  let s := (constants.take 4).foldl State.fullRound s
  let s := ((constants.drop 4).take 83).foldl State.partialRound s
  (constants.drop 87).foldl State.fullRound s

/-- The permutation. -/
def permute (s : State) : State := permuteWith roundConstants s

end Poseidon
end StarkWire
