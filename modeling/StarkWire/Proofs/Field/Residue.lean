/-
# Field elements as residues

An `Fp` computes with least nonnegative representatives.  `residue` sends it to the residue class
modulo `p`, one to one and onto, and takes each operation to the one of that name: sums, products,
powers and numerals because a remainder stands for the same class (`ZMod.natCast_mod`), inverses
because the extended Euclidean algorithm finds them (`residue_inv`).  Equations between elements
can then be proved in the field of residues.
-/

import StarkWire.Proofs.Modular.Inverse
import StarkWire.Proofs.Primes
import Mathlib.Data.ZMod.Basic
import Mathlib.FieldTheory.Finite.Basic

namespace StarkWire
namespace Fp

/-- The class of an element modulo `p`. -/
def residue (a : Fp) : ZMod prime := a.val

/-- An element is told by its residue, for its representative is below the prime. -/
theorem residue_injective : Function.Injective residue := by
  intro a b h
  have hv := (ZMod.natCast_eq_natCast_iff' _ _ _).1 h
  rw [Nat.mod_eq_of_lt a.isLt, Nat.mod_eq_of_lt b.isLt] at hv
  exact Fp.ext hv

/-- Elements can be compared by their residues. -/
theorem residue_inj {a b : Fp} : a.residue = b.residue ↔ a = b := residue_injective.eq_iff

/-- An element made of a number has the residue of that number. -/
@[simp] theorem residue_ofNat (n : ℕ) : (ofNat n).residue = n := ZMod.natCast_mod n prime

/-- The residue of zero. -/
@[simp] theorem residue_zero : (0 : Fp).residue = 0 := by
  rw [← Nat.cast_zero]
  exact residue_ofNat 0

/-- The residue of one. -/
@[simp] theorem residue_one : (1 : Fp).residue = 1 := by
  rw [← Nat.cast_one]
  exact residue_ofNat 1

/-- The residue of a numeral. -/
@[simp] theorem residue_numeral (n : ℕ) [n.AtLeastTwo] :
    (ofNat(n) : Fp).residue = OfNat.ofNat n := by
  rw [← Nat.cast_ofNat]
  exact residue_ofNat n

/-- Only zero has the residue zero. -/
theorem residue_eq_zero_iff {a : Fp} : a.residue = 0 ↔ a = 0 := by
  rw [← residue_zero, residue_inj]

/-- A sum reduced once is the sum of the residues. -/
@[simp] theorem residue_add (a b : Fp) : (a + b).residue = a.residue + b.residue :=
  (residue_ofNat (a.val + b.val)).trans (Nat.cast_add _ _)

/-- A product reduced once is the product of the residues. -/
@[simp] theorem residue_mul (a b : Fp) : (a * b).residue = a.residue * b.residue :=
  (residue_ofNat (a.val * b.val)).trans (Nat.cast_mul _ _)

/-- What lacks to the prime is the opposite residue; the representative is at most the prime, so the
subtraction does not stop at zero. -/
theorem cast_prime_sub (a : Fp) : ((prime - a.val : ℕ) : ZMod prime) = -a.residue := by
  rw [Nat.cast_sub a.isLt.le, ZMod.natCast_self, zero_sub]
  rfl

/-- The residue of an opposite. -/
@[simp] theorem residue_neg (a : Fp) : (-a).residue = -a.residue :=
  (residue_ofNat (prime - a.val)).trans (cast_prime_sub a)

/-- A difference is computed as a sum with an opposite. -/
@[simp] theorem residue_sub (a b : Fp) : (a - b).residue = a.residue - b.residue := by
  refine (residue_ofNat (a.val + (prime - b.val))).trans ?_
  rw [Nat.cast_add, cast_prime_sub, sub_eq_add_neg]
  rfl

/-- The prime divides no representative but zero. -/
theorem coprime_val_prime {a : Fp} (ha : a ≠ 0) : Nat.Coprime a.val prime := by
  refine Nat.Coprime.symm ((Nat.Prime.coprime_iff_not_dvd prime_prime).2 fun h => ha ?_)
  rw [← residue_eq_zero_iff]
  exact (ZMod.natCast_eq_zero_iff _ _).2 h

/-- **An inverse found by the extended algorithm is the inverse of the residue,** zero for zero. -/
@[simp] theorem residue_inv (a : Fp) : a⁻¹.residue = a.residue⁻¹ := by
  refine (residue_ofNat _).trans ?_
  by_cases ha : a = 0
  · subst ha
    have hn : Modular.inverse? (0 : Fp).val prime = none := by
      rw [Modular.inverse?_eq_none_iff, show (0 : Fp).val = 0 from rfl, Nat.coprime_zero_left]
      decide
    rw [hn, residue_zero, inv_zero]
    rfl
  · rcases hu : Modular.inverse? a.val prime with _ | u
    · exact absurd (coprime_val_prime ha) ((Modular.inverse?_eq_none_iff _ _).1 hu)
    · have h := (ZMod.natCast_eq_natCast_iff _ _ _).2 (Modular.inverse?_modEq prime_pos hu)
      rw [Nat.cast_mul, Nat.cast_one] at h
      exact eq_inv_of_mul_eq_one_left h

/-- A quotient is computed as a product with an inverse. -/
@[simp] theorem residue_div (a b : Fp) : (a / b).residue = a.residue / b.residue := by
  rw [div_eq_mul_inv, ← residue_inv]
  exact residue_mul a b⁻¹

/-- A power is computed by squaring modulo the prime. -/
@[simp] theorem residue_pow (a : Fp) (e : ℕ) : (a.pow e).residue = a.residue ^ e := by
  rw [pow, residue_ofNat, Modular.pow_eq, ZMod.natCast_mod, Nat.cast_pow]
  rfl

end Fp
end StarkWire
