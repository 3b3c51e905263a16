/-
# Hashes of lists

* The Pedersen chain hashes zero with the first element, that with the second, and so on, and at
  the end with the number of elements.
* The Poseidon sponge absorbs two elements before each permutation and ends with a one: beside a
  left-over element, or alone.  Hashing exactly two elements or one uses the third element of the
  state as a tag instead, 2 and 1.

All elements are checked before anything is hashed.
-/

import StarkWire.Bridge

namespace StarkWire
namespace Bridge

/-- Every element of a list, in the field. -/
def readElements : List Buffer → Except Rejection (List Fp)
  | [] => .ok []
  | buffer :: rest => do
    let a ← readElement "element" buffer
    let as ← readElements rest
    return a :: as

/-- The chain over a list, from an accumulated hash on. -/
def chain (acc : Fp) : List Fp → Program Fp
  | [] => .done acc
  | a :: rest => .ask (.pedersen acc a) fun acc => chain acc rest

/-- The chain closed by the number of elements. -/
def terminatedChain (elements : List Fp) : Program Fp :=
  (chain 0 elements).bind fun acc => Program.request (.pedersen acc (.ofNat elements.length))

/-- A state with two elements added to its first two. -/
def absorb (s : Poseidon.State) (a b : Fp) : Poseidon.State := ⟨s.s0 + a, s.s1 + b, s.s2⟩

/-- The state after all of a list has been absorbed. -/
def sponge (s : Poseidon.State) : List Fp → Program Poseidon.State
  | a :: b :: rest => .ask (.permute (absorb s a b)) fun s => sponge s rest
  | [a] => Program.request (.permute (absorb s a 1))
  | [] => Program.request (.permute (absorb s 1 0))

/-- The first element of a state, as wire bytes. -/
def squeeze (s : Poseidon.State) : Bytes 32 := s.s0.toWire

namespace Procedure

/-- The Pedersen hash of a list. -/
def pedersenOnElements (elements : List Buffer) : Checked (Program (Bytes 32)) := do
  let elements ← readElements elements
  return (terminatedChain elements).map Fp.toWire

/-- The Poseidon hash of two elements. -/
def poseidonHash (first second : Buffer) : Checked (Program (Bytes 32)) := do
  let a ← readElement "first" first
  let b ← readElement "second" second
  return (Program.request (.permute ⟨a, b, 2⟩)).map squeeze

/-- The Poseidon hash of one element. -/
def poseidonHashSingle (value : Buffer) : Checked (Program (Bytes 32)) := do
  let a ← readElement "value" value
  return (Program.request (.permute ⟨a, 0, 1⟩)).map squeeze

/-- The Poseidon hash of a list. -/
def poseidonHashMany (elements : List Buffer) : Checked (Program (Bytes 32)) := do
  let elements ← readElements elements
  return (sponge ⟨0, 0, 0⟩ elements).map squeeze

end Procedure

variable {σ : Type} (P : Primitives σ)

/-- The Pedersen hash of a list. -/
def pedersenOnElements (elements : List Buffer) : σ → Run σ (Except Error (Bytes 32)) :=
  (Procedure.pedersenOnElements elements).run P

/-- The Poseidon hash of two elements. -/
def poseidonHash (first second : Buffer) : σ → Run σ (Except Error (Bytes 32)) :=
  (Procedure.poseidonHash first second).run P

/-- The Poseidon hash of one element. -/
def poseidonHashSingle (value : Buffer) : σ → Run σ (Except Error (Bytes 32)) :=
  (Procedure.poseidonHashSingle value).run P

/-- The Poseidon hash of a list. -/
def poseidonHashMany (elements : List Buffer) : σ → Run σ (Except Error (Bytes 32)) :=
  (Procedure.poseidonHashMany elements).run P

end Bridge
end StarkWire
