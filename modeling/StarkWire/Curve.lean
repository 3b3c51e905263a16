/-
# The curve

The points are those of `y ^ 2 = x ^ 3 + x + β` over the prime field, and a point at infinity.
Two points add by the chord through them, a point doubles by its tangent, and a vertical line
meets infinity.  A multiple is taken by doubling and adding along the bits of the factor.
-/

import StarkWire.Field.Root

namespace StarkWire

/-- A point in affine coordinates, or the one at infinity. -/
inductive Point where
  | infinity
  | affine (x y : Fp)
deriving DecidableEq

namespace Point

/-- The constant term `β` of the curve. -/
def beta : Fp := Fp.ofNat 0x06f21413efbe40de150e596d72f7a8c5609ad26c15c915c1f4cdfcb99cee9e89

/-- The right-hand side of the curve's equation at `x`. -/
def cubic (x : Fp) : Fp := x * x * x + x + beta

/-- The point lies on the curve. -/
def OnCurve : Point → Prop
  | infinity => True
  | affine x y => y * y = cubic x

/-- The slope of the chord, or of the tangent where the abscissas agree. -/
def slope (x₁ x₂ y₁ y₂ : Fp) : Fp :=
  if x₁ = x₂ then (3 * (x₁ * x₁) + 1) / (2 * y₁) else (y₁ - y₂) / (x₁ - x₂)

/-- The sum of two points. -/
def add : Point → Point → Point
  | infinity, q => q
  | p, infinity => p
  | affine x₁ y₁, affine x₂ y₂ =>
    if x₁ = x₂ ∧ y₁ = -y₂ then infinity
    else
      let m := slope x₁ x₂ y₁ y₂
      let x₃ := m * m - x₁ - x₂
      affine x₃ (m * (x₁ - x₃) - y₁)

/-- The point below or above, with which it adds up to infinity. -/
def neg : Point → Point
  | infinity => infinity
  | affine x y => affine x (-y)

instance : Add Point := ⟨add⟩
instance : Neg Point := ⟨neg⟩
instance : Sub Point := ⟨fun p q => p + -q⟩

/-- The multiple of `p` whose factor is the low `w` bits of `k`. -/
def mulBits (p : Point) : (w k : Nat) → Point
  | 0, _ => infinity
  | w + 1, k =>
    let half := mulBits p w (k / 2)
    let double := half + half
    if k % 2 = 1 then double + p else double

/-- `k` times the point. -/
def mul (k : Nat) (p : Point) : Point := mulBits p (k.log2 + 1) k

/-- The abscissa; infinity has none. -/
def x? : Point → Option Fp
  | infinity => none
  | affine x _ => some x

/-- The point over an abscissa whose ordinate is the smaller root, if the curve has points there.
-/
def lift? (x : Fp) : Option Point := (Fp.sqrt? (cubic x)).map fun y => affine x y.smaller

/-- The generator. -/
def generator : Point :=
  affine (.ofNat 0x01ef15c18599971b7beced415a40f0c7deacfd9b0d1819e03d723d8bc943cfca)
    (.ofNat 0x005668060aa49730b7be4801df46ec62de53ecd11abe43a32873000c36e8dc1f)

end Point
end StarkWire
