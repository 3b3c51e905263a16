/-
# Square roots are found wherever there are any

`rootLoop` keeps three equations from step to step: `x ^ 2 = a * b`, `b ^ (2 ^ k) = 1` and
`c ^ (2 ^ k) = -1`.  The second is what a step restores: `b ^ (2 ^ k)` squares to one, so it is
one or minus one, and in the latter case a factor `c ^ 2` turns it around
(`residue_rootLoop_mul_self`).  At `k = 0` the second equation says `b = 1`.

A nonzero square fulfils them at the start, since its power `(p - 1) / 2` is one, and since 3 is
not a square.  So `sqrt?` fails on exactly the elements that are no squares
(`exists_sqrt?_of_mul_self`).  Of the two roots, `smaller` picks one that depends on the square
alone (`smaller_eq_of_mul_self_eq`).
-/

import StarkWire.Field.Root
import StarkWire.Proofs.Field.Residue

namespace StarkWire
namespace Fp

/-- Squaring `k` times raises to the power `2 ^ k`. -/
theorem residue_squareTimes (b : Fp) (k : ℕ) :
    (squareTimes b k).residue = b.residue ^ 2 ^ k := by
  induction k generalizing b with
  | zero => simp [squareTimes]
  | succ k ih => rw [squareTimes, ih, residue_mul, ← pow_two, ← pow_mul, ← pow_succ']

/-- **The loop keeps its invariant:** `x ^ 2 = a b`, where `b` is a root of unity of order `2 ^ k`
at most and `c` of order `2 ^ (k + 1)`.  With `k = 0` nothing is left of `b`. -/
theorem residue_rootLoop_mul_self {a : ZMod prime} (k : ℕ) (x b c : Fp)
    (hx : x.residue * x.residue = a * b.residue) (hb : b.residue ^ 2 ^ k = 1)
    (hc : c.residue ^ 2 ^ k = -1) :
    (rootLoop k x b c).residue * (rootLoop k x b c).residue = a := by
  induction k generalizing x b c with
  | zero =>
    rw [pow_zero, pow_one] at hb
    rw [rootLoop, hx, hb, mul_one]
  | succ k ih =>
    have hc' : (c * c).residue ^ 2 ^ k = -1 := by
      rw [residue_mul, ← pow_two, ← pow_mul, ← pow_succ']
      exact hc
    rw [rootLoop]
    split
    · rename_i h
      -- multiplied by `c ^ 2`, the power of `b` becomes 1, and `x` takes one `c` for it
      have hneg : b.residue ^ 2 ^ k = -1 := by rw [← residue_squareTimes, h]; simp
      refine ih _ _ _ ?_ ?_ hc'
      · simp only [residue_mul]
        rw [mul_mul_mul_comm, hx, mul_assoc]
      · rw [residue_mul, mul_pow, hneg, hc', neg_one_mul, neg_neg]
    · rename_i h
      -- the power of `b` is a root of 1 and not -1, so `b` has the smaller order already
      refine ih _ _ _ hx ?_ hc'
      have hsq : (b.residue ^ 2 ^ k) ^ 2 = 1 := by rw [← pow_mul, ← pow_succ]; exact hb
      refine (sq_eq_one_iff.1 hsq).resolve_right fun hneg => h ?_
      rw [← residue_inj, residue_squareTimes, hneg]
      simp

/-- The root of zero stays zero. -/
theorem rootLoop_zero (k : ℕ) (b c : Fp) : rootLoop k 0 b c = 0 := by
  induction k generalizing b c with
  | zero => rfl
  | succ k ih =>
    have h : (0 : Fp) * c = 0 := by rw [← residue_inj]; simp
    rw [rootLoop, h]
    split <;> exact ih _ _

/-- **3 is not a square.** -/
theorem three_pow_oddPart : (pow 3 oddPart).residue ^ 2 ^ 191 = -1 := by
  have h : squareTimes (pow 3 oddPart) 191 = -1 := by decide +kernel
  rw [← residue_squareTimes, h]
  simp

/-- **What is found is a root.** -/
theorem mul_self_of_sqrt? {a x : Fp} (h : sqrt? a = some x) : x * x = a := by
  unfold sqrt? at h
  dsimp only at h
  split at h
  · rename_i hx
    obtain rfl := Option.some.inj h
    exact hx
  · cases h

/-- **Every square has a root.**  For a zero the candidate is zero; for `z ^ 2` with `z ≠ 0` the
loop starts from `b = z ^ (2 q)`, whose power `2 ^ 191` is `z ^ (p - 1) = 1`. -/
theorem exists_sqrt?_of_mul_self {a z : Fp} (h : z * z = a) : ∃ x, sqrt? a = some x := by
  unfold sqrt?
  dsimp only
  rw [if_pos]
  · exact ⟨_, rfl⟩
  · rw [← residue_inj, residue_mul]
    by_cases hz : z = 0
    · have ha : a = 0 := by rw [← h, hz, ← residue_inj]; simp
      have hx : a.pow ((oddPart + 1) / 2) = 0 := by
        rw [ha, ← residue_inj, residue_pow, residue_zero, zero_pow (by decide)]
      rw [hx, rootLoop_zero, ha]
      simp
    · have hz' : z.residue ≠ 0 := fun h0 => hz (residue_eq_zero_iff.1 h0)
      have ha : a.residue = z.residue * z.residue := by rw [← h, residue_mul]
      refine residue_rootLoop_mul_self 191 _ _ _ ?_ ?_ three_pow_oddPart
      · rw [residue_pow, residue_pow, ← pow_add, ← pow_succ',
          show (oddPart + 1) / 2 + (oddPart + 1) / 2 = oddPart + 1 by decide]
      · rw [residue_pow, ha, ← pow_two, ← pow_mul, ← pow_mul,
          show 2 * (oddPart * 2 ^ 191) = prime - 1 from rfl]
        exact ZMod.pow_card_sub_one_eq_one hz'

/-- The opposite of the opposite, told by residues. -/
theorem neg_neg' (x : Fp) : -(-x) = x := by
  rw [← residue_inj]
  simp

/-- A square has two roots at most. -/
theorem eq_or_eq_neg_of_mul_self_eq {x y : Fp} (h : x * x = y * y) : x = y ∨ x = -y := by
  rw [← residue_inj, residue_mul, residue_mul] at h
  rcases mul_self_eq_mul_self_iff.1 h with h | h
  · exact Or.inl (residue_inj.1 h)
  · exact Or.inr (residue_inj.1 (by rw [h, residue_neg]))

/-- Of a root and its opposite one is chosen, the same for both. -/
theorem smaller_neg (x : Fp) : (-x).smaller = x.smaller := by
  unfold smaller
  rw [neg_neg']
  rcases lt_trichotomy x.val (-x).val with h | h | h
  · rw [if_neg (by omega), if_pos (by omega)]
  · rw [if_pos (by omega), if_pos (by omega)]
    exact Fp.ext h.symm
  · rw [if_pos (by omega), if_neg (by omega)]

/-- The smaller of two roots depends on their square alone. -/
theorem smaller_eq_of_mul_self_eq {x y : Fp} (h : x * x = y * y) : x.smaller = y.smaller := by
  rcases eq_or_eq_neg_of_mul_self_eq h with rfl | rfl
  · rfl
  · exact smaller_neg y

end Fp
end StarkWire
