/-
# The permutation state of a caller

A caller holds the state as a grid of limbs: three rows, one for each element, of four limbs each,
least significant first.  The rows are any 256-bit values; they are reduced modulo the field prime
on the way into the permutation and come out of it below the prime.
-/

import StarkWire.Poseidon
import StarkWire.Shape

namespace StarkWire
namespace Poseidon

/-- Three unreduced elements. -/
@[ext] structure WireState where
  s0 : U256
  s1 : U256
  s2 : U256
deriving DecidableEq

namespace WireState

/-- Elements in a state. -/
def rows : Nat := 3

/-- Limbs in each element. -/
def cols : Nat := U256.limbCount

/-- The state of three zeros. -/
def zero : WireState := ⟨.zero, .zero, .zero⟩

/-- The elements, in order. -/
def elements (s : WireState) : List U256 := [s.s0, s.s1, s.s2]

/-- The state of exactly three elements. -/
def ofElements? : List U256 → Option WireState
  | [a, b, c] => some ⟨a, b, c⟩
  | _ => none

/-- One row of limbs for each element. -/
def toGrid (s : WireState) : Grid := s.elements.map U256.limbs

/-- Row `i` as an element; zero where there is no row of four limbs. -/
def rowAt (grid : Grid) (i : Nat) : U256 := (grid[i]?.bind U256.ofLimbs?).getD .zero

/-- The state in a grid, which must be three rows of four limbs. -/
def ofGrid (grid : Grid) : Except SizeError WireState :=
  (checkGridShape grid rows cols).map fun _ => ⟨rowAt grid 0, rowAt grid 1, rowAt grid 2⟩

/-- The elements in the field. -/
def toState (s : WireState) : State := ⟨.ofU256 s.s0, .ofU256 s.s1, .ofU256 s.s2⟩

/-- The grid of a state has the right shape, and is read as this state. -/
theorem ofGrid_toGrid (s : WireState) : ofGrid s.toGrid = .ok s := rfl

end WireState

/-- The representatives of the elements. -/
def State.toWire (s : State) : WireState := ⟨s.s0.toU256, s.s1.toU256, s.s2.toU256⟩

/-- A state of field elements comes back from the wire as it was. -/
theorem State.toState_toWire (s : State) : s.toWire.toState = s := by
  simp [toWire, WireState.toState]

end Poseidon
end StarkWire
