/-
# The order of the generator, and lifting an abscissa

The generator lies on the curve, its multiple by the order `n` is infinity, and `n` is prime, so
its multiples by `j` and by `k` are the same point just when `j ≡ k` modulo `n`
(`nsmul_base_eq_iff`).  In particular a multiple of the generator has an abscissa unless `n`
divides the factor (`x?_mul_generator_eq_none_iff`).

A point is known from its abscissa up to its sign: `lift?` finds a point over every abscissa of
the curve, the given one or its negative (`lift?_eq_or_eq_neg`).
-/

import StarkWire.Proofs.Curve.Group
import Mathlib.GroupTheory.OrderOfElement

namespace StarkWire
namespace Point

/-- The generator satisfies the equation. -/
theorem onCurve_generator : OnCurve generator := by
  unfold generator OnCurve
  decide +kernel

/-- The order many copies of the generator add up to infinity. -/
theorem mul_order_generator : generator.mul Scalar.order = infinity := by decide +kernel

/-- The generator in the group. -/
def base : curve.Point := .some _ _ ((onCurve_affine_iff _ _).1 onCurve_generator)

/-- The generator denotes the base point. -/
theorem denotes_generator : Denotes generator base := .affine _

/-- Multiples of the generator denote those of the base point. -/
theorem denotes_mul_generator (k : ℕ) : Denotes (generator.mul k) (k • base) :=
  denotes_generator.mul k

/-- **The order of the generator is `n`.** -/
theorem addOrderOf_base : addOrderOf base = Scalar.order := by
  refine addOrderOf_eq_prime ?_ (WeierstrassCurve.Affine.Point.some_ne_zero _)
  have h := denotes_mul_generator Scalar.order
  rw [mul_order_generator] at h
  exact h.eq_infinity_iff.1 rfl

/-- Multiples of the base point agree just when the multipliers do modulo the order. -/
theorem nsmul_base_eq_iff {j k : ℕ} : j • base = k • base ↔ j ≡ k [MOD Scalar.order] := by
  rw [nsmul_eq_nsmul_iff_modEq, addOrderOf_base]

/-- Only multiples of the order lead to zero. -/
theorem nsmul_base_eq_zero_iff {k : ℕ} : k • base = 0 ↔ Scalar.order ∣ k := by
  rw [← addOrderOf_base, addOrderOf_dvd_iff_nsmul_eq_zero]

/-- Infinity alone has no abscissa. -/
theorem x?_eq_none_iff {p : Point} : p.x? = none ↔ p = infinity := by
  cases p <;> simp [x?]

/-- **A multiple of the generator has no abscissa just when the order divides the multiplier.** -/
theorem x?_mul_generator_eq_none_iff {k : ℕ} :
    (generator.mul k).x? = none ↔ Scalar.order ∣ k := by
  rw [x?_eq_none_iff, (denotes_mul_generator k).eq_infinity_iff, nsmul_base_eq_zero_iff]

/-- Any other multiple has one. -/
theorem exists_x?_mul_generator {k : ℕ} (h : ¬ Scalar.order ∣ k) :
    ∃ x, (generator.mul k).x? = some x := by
  rwa [← x?_mul_generator_eq_none_iff, ← ne_eq, Option.ne_none_iff_exists'] at h

/-- The order is odd, so no multiple with an abscissa is its own negative. -/
theorem mul_generator_ne_neg {k : ℕ} (h : ¬ Scalar.order ∣ k) :
    generator.mul k ≠ -generator.mul k := by
  intro he
  have hd := denotes_mul_generator k
  have hs : k • base = -(k • base) := hd.elem_eq (he ▸ hd.neg)
  -- otherwise twice the multiple is infinity
  have h2 : (2 * k) • base = 0 := by
    rw [two_mul, add_nsmul]
    nth_rewrite 2 [hs]
    exact add_neg_cancel _
  refine h ((Nat.Prime.dvd_mul Scalar.prime_order).1 (nsmul_base_eq_zero_iff.1 h2)
    |>.resolve_left ?_)
  decide +kernel

/-- **Lifting an abscissa back.**  Over the abscissa of a point of the curve `lift?` finds that
point or its negative. -/
theorem lift?_eq_or_eq_neg {p : Point} {x : Fp} (hp : p.OnCurve) (hx : p.x? = some x) :
    lift? x = some p ∨ lift? x = some (-p) := by
  cases p with
  | infinity => cases hx
  | affine x' y =>
    obtain rfl := Option.some.inj hx
    obtain ⟨z, hz⟩ := Fp.exists_sqrt?_of_mul_self hp
    have hs : z.smaller = y.smaller :=
      Fp.smaller_eq_of_mul_self_eq ((Fp.mul_self_of_sqrt? hz).trans hp.symm)
    have hl : lift? x' = some (affine x' y.smaller) := by
      rw [lift?, hz, Option.map_some, hs]
    rw [hl, Fp.smaller]
    split
    · exact Or.inl rfl
    · exact Or.inr rfl

end Point
end StarkWire
