/-
# Scalars are reduced exactly

None of the multiples `n * 2 ^ s` that may be taken off loses a bit, and one is taken off only where
it is not more than what there is (`toNat_reduceStep`).  So a step leaves a value below
`n * 2 ^ (s + 1)` as its remainder modulo `n * 2 ^ s` (`toNat_reduceStep_of_lt`).  A 256-bit value
is below `n * 2 ^ 5`; after `k` of the five steps it is the remainder modulo `n * 2 ^ (5 - k)`
(`toNat_afterSteps`), and at the end that modulo `n` (`toNat_reduce`).

Hence a scalar that is reduced stays as it is, and what is reduced to zero are the multiples of the
order (`reduces_exactly`).
-/

import StarkWire.Proofs.Primes
import StarkWire.Proofs.U256.Arith
import Mathlib.Tactic.IntervalCases

namespace StarkWire
namespace Scalar

variable {s : UInt64} {m : ℕ}

/-- A multiple that a value has to give is taken off it without a wrap; else the value stays. -/
theorem toNat_reduceStep (a : U256) (hm : (orderLimbs.shiftLeft s).toNat = m) :
    (reduceStep a s).toNat = if m ≤ a.toNat then a.toNat - m else a.toNat := by
  subst hm
  unfold reduceStep
  dsimp only
  by_cases h : (orderLimbs.shiftLeft s).toNat ≤ a.toNat
  · rw [if_pos ((U256.ge_iff _ _).2 h), if_pos h, U256.toNat_sub_of_le h]
  · rw [if_neg (mt (U256.ge_iff _ _).1 h), if_neg h]

/-- Where a multiple can be taken off once at most, the remainder is left. -/
theorem toNat_reduceStep_of_lt {a : U256} (hm : (orderLimbs.shiftLeft s).toNat = m)
    (ha : a.toNat < 2 * m) : (reduceStep a s).toNat = a.toNat % m := by
  rw [toNat_reduceStep a hm]
  split_ifs with h
  · rw [Nat.mod_eq_sub_mod h, Nat.mod_eq_of_lt (by omega)]
  · rw [Nat.mod_eq_of_lt (Nat.not_le.1 h)]

/-- Even `16 n` fits in 256 bits. -/
theorem toNat_shiftLeft_orderLimbs {s : ℕ} (h : s ≤ 4) :
    (orderLimbs.shiftLeft (.ofNat s)).toNat = order * 2 ^ s := by
  interval_cases s <;> decide

/-- The value after the first `k` of the five steps. -/
def afterSteps (a : U256) (k : ℕ) : U256 := ([4, 3, 2, 1, 0].take k).foldl reduceStep a

/-- The steps are taken for the shifts 4, 3, 2, 1 and 0, in this order. -/
theorem afterSteps_succ (a : U256) {k : ℕ} (h : k ≤ 4) :
    afterSteps a (k + 1) = reduceStep (afterSteps a k) (.ofNat (4 - k)) := by
  have hget : ([4, 3, 2, 1, 0] : List UInt64)[k]? = some (.ofNat (4 - k)) := by
    interval_cases k <;> rfl
  rw [afterSteps, List.take_add_one, hget, List.foldl_append]
  rfl

/-- **The invariant of the steps.** -/
theorem toNat_afterSteps (a : U256) {k : ℕ} (h : k ≤ 5) :
    (afterSteps a k).toNat = a.toNat % (order * 2 ^ (5 - k)) := by
  induction k with
  | zero =>
    have hbound : U256.bound ≤ order * 2 ^ 5 := by decide
    exact (Nat.mod_eq_of_lt (a.toNat_lt.trans_le hbound)).symm
  | succ k ih =>
    have hk : k ≤ 4 := Nat.le_of_succ_le_succ h
    have hdouble : order * 2 ^ (5 - k) = 2 * (order * 2 ^ (4 - k)) := by
      rw [Nat.succ_sub hk, Nat.pow_succ, Nat.mul_comm (2 ^ (4 - k)), Nat.mul_left_comm]
    have hlt : (afterSteps a k).toNat < 2 * (order * 2 ^ (4 - k)) := by
      rw [ih (Nat.le_of_succ_le h), ← hdouble]
      exact Nat.mod_lt _ (Nat.mul_pos order_pos (Nat.two_pow_pos _))
    rw [afterSteps_succ a hk,
      toNat_reduceStep_of_lt (toNat_shiftLeft_orderLimbs (Nat.sub_le 4 k)) hlt,
      ih (Nat.le_of_succ_le h), hdouble, Nat.mod_mod_of_dvd _ (Nat.dvd_mul_left _ 2),
      Nat.succ_sub_succ]

/-- **Reduction is the remainder modulo the order.** -/
theorem toNat_reduce (a : U256) : (reduce a).toNat = a.toNat % order := by
  have h := toNat_afterSteps a (Nat.le_refl 5)
  rwa [Nat.sub_self, Nat.pow_zero, Nat.mul_one] at h

/-- A reduced scalar is its own representative in the field. -/
theorem val_ofU256_reduce (a : U256) : (Fp.ofU256 (reduce a)).val = a.toNat % order := by
  have h := (Nat.mod_lt a.toNat order_pos).trans order_lt_prime
  rw [Fp.ofU256, Fp.val_ofNat, toNat_reduce, Nat.mod_eq_of_lt h]

/-- What five steps make of a value: each multiple is exact, what is left before the step of shift
`s` is below `n * 2 ^ (s + 1)`, the step is exact, and the end is the remainder. -/
structure ReducesExactly (a : U256) : Prop where
  multiple (s : ℕ) (h : s ≤ 4) : (orderLimbs.shiftLeft (.ofNat s)).toNat = order * 2 ^ s
  steps : reduce a = afterSteps a 5
  first : afterSteps a 0 = a
  step (k : ℕ) (h : k ≤ 4) : (afterSteps a (k + 1)).toNat =
    if order * 2 ^ (4 - k) ≤ (afterSteps a k).toNat then
      (afterSteps a k).toNat - order * 2 ^ (4 - k)
    else (afterSteps a k).toNat
  below (k : ℕ) (h : k ≤ 5) : (afterSteps a k).toNat < order * 2 ^ (5 - k)
  remainder : reduce a = .ofNat (a.toNat % order)
  lt_order : (reduce a).toNat < order
  idempotent : reduce (reduce a) = reduce a
  isZero_iff : isZero a = true ↔ order ∣ a.toNat

/-- What is reduced stays as it is. -/
theorem reduce_reduce (a : U256) : reduce (reduce a) = reduce a :=
  U256.toNat_inj (by rw [toNat_reduce, toNat_reduce, Nat.mod_mod])

/-- A value counts as zero just when the order divides it. -/
theorem isZero_iff_dvd (a : U256) : isZero a = true ↔ order ∣ a.toNat := by
  rw [isZero, decide_eq_true_iff, Nat.dvd_iff_mod_eq_zero, ← toNat_reduce]
  constructor
  · intro h
    rw [h]
    rfl
  · intro h
    exact U256.toNat_inj h

/-- **Every 256-bit value is reduced exactly.** -/
theorem reduces_exactly (a : U256) : ReducesExactly a where
  multiple _ h := toNat_shiftLeft_orderLimbs h
  steps := rfl
  first := rfl
  step k h := by
    rw [afterSteps_succ a h]
    exact toNat_reduceStep _ (toNat_shiftLeft_orderLimbs (Nat.sub_le 4 k))
  below k h := by
    rw [toNat_afterSteps a h]
    exact Nat.mod_lt _ (Nat.mul_pos order_pos (Nat.two_pow_pos _))
  remainder := by
    rw [← toNat_reduce, U256.ofNat_toNat]
  lt_order := by
    rw [toNat_reduce]
    exact Nat.mod_lt _ order_pos
  idempotent := reduce_reduce a
  isZero_iff := isZero_iff_dvd a

/-- The greatest value holds the order 31 times, so every step takes its multiple off. -/
example : reduce ⟨0xffffffffffffffff, 0xffffffffffffffff, 0xffffffffffffffff, 0xffffffffffffffff⟩
    = .ofNat (U256.bound - 1 - 31 * order) := by decide +kernel

end Scalar
end StarkWire
