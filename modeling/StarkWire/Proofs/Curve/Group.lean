/-
# The points form a group

Chord and tangent on representatives are chord and tangent on residues, so a point of the curve
denotes a point of the Weierstrass curve `y ^ 2 = x ^ 3 + x + β` over the residues modulo `p`
(`Denotes`), whose points are a commutative group.  Sum, negative and multiple of points denote
sum, negative and multiple in that group (`Denotes.add`, `Denotes.neg`, `Denotes.mul`), and no two
points denote the same element (`Denotes.point_eq`).

The curve has no singular point because `4 + 27 β ^ 2` is not zero modulo `p`.
-/

import StarkWire.Curve
import StarkWire.Proofs.Field.Root
import Mathlib.AlgebraicGeometry.EllipticCurve.Affine.Point
import Mathlib.Tactic.LinearCombination

namespace StarkWire
namespace Point

/-- The curve over the residues modulo `p`. -/
def curve : WeierstrassCurve.Affine (ZMod Fp.prime) := ⟨0, 0, 0, 1, beta.residue⟩

/-- The curve is nonsingular. -/
theorem discriminant_ne_zero : curve.Δ ≠ 0 := by
  have h : (-16 : Fp) * (4 + 27 * (beta * beta)) ≠ 0 := by decide +kernel
  have hΔ : curve.Δ = ((-16 : Fp) * (4 + 27 * (beta * beta))).residue := by
    simp only [WeierstrassCurve.Δ, WeierstrassCurve.b₂, WeierstrassCurve.b₄, WeierstrassCurve.b₆,
      WeierstrassCurve.b₈, curve, Fp.residue_mul, Fp.residue_add, Fp.residue_neg,
      Fp.residue_numeral]
    ring
  rw [hΔ, ne_eq, Fp.residue_eq_zero_iff]
  exact h

/-- The points that satisfy the equation are the nonsingular ones, as all of the curve's are. -/
theorem onCurve_affine_iff (x y : Fp) :
    OnCurve (affine x y) ↔ curve.Nonsingular x.residue y.residue := by
  rw [← WeierstrassCurve.Affine.equation_iff_nonsingular_of_Δ_ne_zero discriminant_ne_zero,
    WeierstrassCurve.Affine.equation_iff, OnCurve, ← Fp.residue_inj, cubic]
  simp only [curve, Fp.residue_mul, Fp.residue_add]
  constructor <;> intro h <;> linear_combination h

/-- The curve has no terms in `x y` and `y`, so the opposite point has the opposite ordinate. -/
@[simp] theorem negY_eq (x y : ZMod Fp.prime) : curve.negY x y = -y := by
  simp [WeierstrassCurve.Affine.negY, curve]

/-- A point and the element of the group that it stands for. -/
inductive Denotes : Point → curve.Point → Prop
  | infinity : Denotes infinity 0
  | affine {x y : Fp} (h : curve.Nonsingular x.residue y.residue) :
      Denotes (affine x y) (.some x.residue y.residue h)

/-- **The slopes agree** where the line through the two points is not vertical. -/
theorem residue_slope {x₁ x₂ y₁ y₂ : Fp} (h₁ : curve.Nonsingular x₁.residue y₁.residue)
    (h₂ : curve.Nonsingular x₂.residue y₂.residue) (hv : ¬ (x₁ = x₂ ∧ y₁ = -y₂)) :
    (slope x₁ x₂ y₁ y₂).residue
      = curve.slope x₁.residue x₂.residue y₁.residue y₂.residue := by
  unfold slope
  split
  · rename_i hx
    subst hx
    -- over one abscissa and not opposite: the same point twice, with the slope of its tangent
    have hy : y₁ = y₂ := by
      have h := ((onCurve_affine_iff x₁ y₁).2 h₁).trans ((onCurve_affine_iff x₁ y₂).2 h₂).symm
      exact (Fp.eq_or_eq_neg_of_mul_self_eq h).resolve_right fun hn => hv ⟨rfl, hn⟩
    subst hy
    have hne : y₁.residue ≠ curve.negY x₁.residue y₁.residue := by
      rw [negY_eq, ← Fp.residue_neg, ne_eq, Fp.residue_inj]
      exact fun h => hv ⟨rfl, h⟩
    rw [WeierstrassCurve.Affine.slope_of_Y_ne rfl hne, negY_eq]
    simp only [curve, Fp.residue_div, Fp.residue_add, Fp.residue_mul, Fp.residue_numeral,
      Fp.residue_one]
    ring
  · rename_i hx
    have hx' : x₁.residue ≠ x₂.residue := fun h => hx (Fp.residue_inj.1 h)
    rw [WeierstrassCurve.Affine.slope_of_X_ne hx']
    simp

namespace Denotes

variable {p q : Point} {P Q : curve.Point}

/-- What denotes a point of the group is on the curve. -/
theorem onCurve (h : Denotes p P) : p.OnCurve := by
  cases h with
  | infinity => trivial
  | affine h => exact (onCurve_affine_iff _ _).2 h

/-- Every point on the curve denotes one of the group. -/
theorem exists_of_onCurve (h : p.OnCurve) : ∃ P, Denotes p P := by
  cases p with
  | infinity => exact ⟨0, infinity⟩
  | affine x y => exact ⟨_, affine ((onCurve_affine_iff x y).1 h)⟩

/-- Different points denote different elements. -/
theorem point_eq (hp : Denotes p P) (hq : Denotes q P) : p = q := by
  cases hp with
  | infinity => cases hq; rfl
  | affine h =>
    generalize hP : WeierstrassCurve.Affine.Point.some _ _ h = R at hq
    cases hq with
    | infinity => exact absurd hP (WeierstrassCurve.Affine.Point.some_ne_zero h)
    | affine h' =>
      obtain ⟨hx, hy⟩ := WeierstrassCurve.Affine.Point.some.inj hP
      rw [Fp.residue_inj.1 hx, Fp.residue_inj.1 hy]

/-- A point denotes one point of the group at most. -/
theorem elem_eq (hP : Denotes p P) (hQ : Denotes p Q) : P = Q := by
  cases hP <;> cases hQ <;> rfl

/-- Infinity denotes zero, and nothing else does. -/
theorem eq_infinity_iff (h : Denotes p P) : p = .infinity ↔ P = 0 := by
  constructor
  · rintro rfl
    cases h
    rfl
  · rintro rfl
    exact h.point_eq infinity

/-- **The opposite point is computed as in the group.** -/
theorem neg (h : Denotes p P) : Denotes (-p) (-P) := by
  cases h with
  | infinity =>
    rw [neg_zero]
    exact infinity
  | @affine x y h =>
    rw [WeierstrassCurve.Affine.Point.neg_some]
    simp only [negY_eq, ← Fp.residue_neg]
    exact affine _

/-- **Points are added as in the group.**  The cases are those of the formulas: infinity, opposite
points, the same point twice, and different abscissas. -/
theorem add (hp : Denotes p P) (hq : Denotes q Q) : Denotes (p + q) (P + Q) := by
  cases hp with
  | infinity =>
    rw [zero_add]
    exact hq
  | @affine x₁ y₁ h₁ =>
    cases hq with
    | infinity =>
      rw [add_zero]
      exact affine h₁
    | @affine x₂ y₂ h₂ =>
      change Denotes (Point.add _ _) _
      by_cases hv : x₁ = x₂ ∧ y₁ = -y₂
      · rw [Point.add, if_pos hv, WeierstrassCurve.Affine.Point.add_of_Y_eq
          (Fp.residue_inj.2 hv.1) (by rw [hv.2, negY_eq, Fp.residue_neg])]
        exact infinity
      · have hv' : ¬ (x₁.residue = x₂.residue ∧ y₁.residue = curve.negY x₂.residue y₂.residue) := by
          rw [negY_eq, ← Fp.residue_neg, Fp.residue_inj, Fp.residue_inj]
          exact hv
        -- both sides compute the new point from the slope, and the slopes agree
        have hx : curve.addX x₁.residue x₂.residue
              (curve.slope x₁.residue x₂.residue y₁.residue y₂.residue)
            = (slope x₁ x₂ y₁ y₂ * slope x₁ x₂ y₁ y₂ - x₁ - x₂).residue := by
          rw [← residue_slope h₁ h₂ hv]
          simp [WeierstrassCurve.Affine.addX, curve]
          ring
        have hy : curve.addY x₁.residue x₂.residue y₁.residue
              (curve.slope x₁.residue x₂.residue y₁.residue y₂.residue)
            = (slope x₁ x₂ y₁ y₂ * (x₁ - (slope x₁ x₂ y₁ y₂ * slope x₁ x₂ y₁ y₂ - x₁ - x₂))
                - y₁).residue := by
          rw [WeierstrassCurve.Affine.addY, WeierstrassCurve.Affine.negAddY, negY_eq, hx,
            ← residue_slope h₁ h₂ hv]
          simp
          ring
        rw [Point.add, if_neg hv, WeierstrassCurve.Affine.Point.add_some hv']
        simp only [hx, hy]
        exact affine _

/-- Subtraction adds the opposite. -/
theorem sub (hp : Denotes p P) (hq : Denotes q Q) : Denotes (p - q) (P - Q) := by
  rw [sub_eq_add_neg]
  exact hp.add hq.neg

/-- Doubling and adding over `w` bits multiplies by the number that they denote. -/
theorem mulBits (hp : Denotes p P) (w k : ℕ) : Denotes (p.mulBits w k) ((k % 2 ^ w) • P) := by
  induction w generalizing k with
  | zero =>
    rw [pow_zero, Nat.mod_one, zero_nsmul]
    exact infinity
  | succ w ih =>
    rw [Point.mulBits, Modular.mod_two_pow_succ, add_nsmul, add_nsmul]
    split
    · rename_i h
      rw [h, one_nsmul]
      exact ((ih _).add (ih _)).add hp
    · rename_i h
      rw [Nat.mod_two_ne_one.1 h, zero_nsmul, add_zero]
      exact (ih _).add (ih _)

/-- **Points are multiplied as in the group.** -/
theorem mul (hp : Denotes p P) (k : ℕ) : Denotes (p.mul k) (k • P) := by
  have h := hp.mulBits (k.log2 + 1) k
  rwa [Nat.mod_eq_of_lt Nat.lt_log2_self] at h

end Denotes

end Point
end StarkWire
