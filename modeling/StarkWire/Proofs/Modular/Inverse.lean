/-
# What the extended Euclidean algorithm computes

The first component of `bezout` is the greatest common divisor (`bezout_fst`).  The coefficients
beside the two remainders satisfy `s * a ≡ r` modulo `m` before each step and so at the end
(`bezout_modEq`).  Hence `inverse?` finds the inverse whenever there is one, and it is the only
number below `m` that is one (`inverse?_eq_some_iff`, `inverse?_eq_none_iff`).
-/

import StarkWire.Modular
import Mathlib.Data.Int.ModEq
import Mathlib.Data.Nat.ModEq
import Mathlib.Data.Nat.Prime.Basic

namespace StarkWire
namespace Modular

/-- The extended algorithm ends with the greatest common divisor. -/
theorem bezout_fst (r₀ r₁ : ℕ) (s₀ s₁ : ℤ) : (bezout r₀ r₁ s₀ s₁).1 = Nat.gcd r₁ r₀ := by
  fun_induction bezout r₀ r₁ s₀ s₁ with
  | case1 => simp
  | case2 r₀ r₁ s₀ s₁ _ ih => rw [ih, Nat.gcd_rec r₁ r₀]

/-- **The coefficient of the last remainder.**  What the two coefficients satisfy at the start, the
one that is returned satisfies at the end. -/
theorem bezout_modEq {a m : ℤ} (r₀ r₁ : ℕ) (s₀ s₁ : ℤ) (h₀ : s₀ * a ≡ r₀ [ZMOD m])
    (h₁ : s₁ * a ≡ r₁ [ZMOD m]) :
    (bezout r₀ r₁ s₀ s₁).2 * a ≡ (bezout r₀ r₁ s₀ s₁).1 [ZMOD m] := by
  fun_induction bezout r₀ r₁ s₀ s₁ with
  | case1 => exact h₀
  | case2 r₀ r₁ s₀ s₁ _ ih =>
    refine ih h₁ ?_
    have hr : ((r₀ % r₁ : ℕ) : ℤ) = r₀ - (r₀ / r₁ : ℕ) * r₁ := by
      rw [eq_sub_iff_add_eq]
      exact_mod_cast Nat.mod_add_div' r₀ r₁
    rw [hr, sub_mul, mul_assoc]
    exact h₀.sub (h₁.mul_left _)

variable {a m u : ℕ}

/-- There is an inverse unless the number and the modulus have a divisor in common. -/
theorem inverse?_eq_none_iff (a m : ℕ) : inverse? a m = none ↔ ¬ Nat.Coprime a m := by
  have hg : (bezout m (a % m) 0 1).1 = Nat.gcd a m := by
    rw [bezout_fst, ← Nat.gcd_rec, Nat.gcd_comm]
  unfold inverse?
  split
  · rename_i s hs
    rw [hs] at hg
    simp [Nat.Coprime, ← hg]
  · rename_i hs
    simp only [true_iff]
    intro hc
    exact hs _ (Prod.ext (hg.trans hc) rfl)

/-- **What is found inverts.**  The coefficient that the algorithm keeps is an integer, of which the
residue is taken. -/
theorem inverse?_modEq (hm : 0 < m) (h : inverse? a m = some u) : u * a ≡ 1 [MOD m] := by
  have hb := bezout_modEq (a := a) (m := m) m (a % m) 0 1
    (by simpa using (Int.modEq_zero_iff_dvd.2 dvd_rfl).symm)
    (by simpa using (Int.mod_modEq (a : ℤ) m).symm)
  unfold inverse? at h
  split at h
  · rename_i s hs
    rw [hs] at hb
    obtain rfl := Option.some.inj h
    have hs0 : 0 ≤ s % m := Int.emod_nonneg s (by omega)
    rw [← Int.natCast_modEq_iff]
    push_cast
    rw [Int.toNat_of_nonneg hs0]
    exact ((Int.mod_modEq s m).mul_right _).trans (by simpa using hb)
  · cases h

/-- Only what has no divisor in common with the modulus is inverted. -/
theorem coprime_of_mul_modEq_one (h : u * a ≡ 1 [MOD m]) : Nat.Coprime a m := by
  have hg := h.gcd_eq
  rw [Nat.gcd_one_left] at hg
  exact Nat.Coprime.coprime_dvd_left (Dvd.intro_left u rfl) hg

/-- **The inverse is unique.**  Two numbers below `m` that both invert `a` modulo `m` are equal. -/
theorem eq_of_mul_modEq_one {v : ℕ} (hu : u < m) (hv : v < m) (hua : u * a ≡ 1 [MOD m])
    (hva : v * a ≡ 1 [MOD m]) : u = v :=
  (Nat.ModEq.cancel_right_of_coprime (coprime_of_mul_modEq_one hua).symm
    (hua.trans hva.symm)).eq_of_lt_of_lt hu hv

/-- **The search finds whatever inverts,** and nothing else: an inverse below the modulus is unique.
-/
theorem inverse?_eq_some_iff (hm : 0 < m) :
    inverse? a m = some u ↔ u < m ∧ u * a ≡ 1 [MOD m] := by
  constructor
  · intro h
    exact ⟨inverse?_lt hm h, inverse?_modEq hm h⟩
  · rintro ⟨hu, hua⟩
    rcases hv : inverse? a m with _ | v
    · exact absurd (coprime_of_mul_modEq_one hua) ((inverse?_eq_none_iff a m).1 hv)
    · rw [eq_of_mul_modEq_one (inverse?_lt hm hv) hu (inverse?_modEq hm hv) hua]

/-- **Inverting twice.**  The inverse of the inverse is the number itself, reduced. -/
theorem inverse?_inverse? (hm : 0 < m) (h : inverse? a m = some u) :
    inverse? u m = some (a % m) := by
  rw [inverse?_eq_some_iff hm]
  refine ⟨Nat.mod_lt a hm, ?_⟩
  rw [Nat.mul_comm]
  exact ((Nat.mod_modEq a m).mul_left u).trans (inverse?_modEq hm h)

end Modular
end StarkWire
