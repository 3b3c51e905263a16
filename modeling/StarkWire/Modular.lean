/-
# Inverses and powers modulo `m`

The extended Euclidean algorithm keeps, beside each remainder `r`, a coefficient `s` with
`s * a ≡ r` modulo `m`.  When the remainders end in 1, its coefficient inverts `a`.
-/

namespace StarkWire
namespace Modular

/-- The last nonzero remainder of `r₀` and `r₁`, with its coefficient, from the coefficients `s₀`
and `s₁` of the two. -/
def bezout (r₀ r₁ : Nat) (s₀ s₁ : Int) : Nat × Int :=
  if r₁ = 0 then (r₀, s₀)
  else bezout r₁ (r₀ % r₁) s₁ (s₀ - (r₀ / r₁ : Nat) * s₁)
termination_by r₁
decreasing_by exact Nat.mod_lt _ (by omega)

/-- The inverse of `a` modulo `m`, if `a` and `m` have no common factor. -/
def inverse? (a m : Nat) : Option Nat :=
  match bezout m (a % m) 0 1 with
  | (1, s) => some (s % m).toNat
  | _ => none

/-- The power of `b` modulo `m` whose exponent is the low `w` bits of `e`. -/
def powBits (m b : Nat) : (w e : Nat) → Nat
  | 0, _ => 1 % m
  | w + 1, e =>
    let half := powBits m b w (e / 2)
    let square := half * half % m
    if e % 2 = 1 then square * b % m else square

/-- `b ^ e` modulo `m`. -/
def pow (m b e : Nat) : Nat := powBits m b (e.log2 + 1) e

/-- An inverse is reduced. -/
theorem inverse?_lt {a m u : Nat} (hm : 0 < m) (h : inverse? a m = some u) : u < m := by
  unfold inverse? at h
  split at h
  · rename_i s _
    have h0 := Int.emod_nonneg s (b := m) (by omega)
    have h1 := Int.emod_lt_of_pos s (b := m) (by omega)
    have := Option.some.inj h
    omega
  · cases h

end Modular
end StarkWire
