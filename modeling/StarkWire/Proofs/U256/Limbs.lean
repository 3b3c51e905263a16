/-
# Borrows and carries across the limbs

The value of the first `j` limbs is the sum of the limbs by their weights (`lowValue`), and the
value of all four is the number that they denote (`lowValue_four`).

Subtraction goes through the limbs from the lowest on.  Added up over the first `j` limbs, the
balance of a limb leaves one borrow of weight `2 ^ (64 j)` (`lowValue_sub`), so what is borrowed
from limb `j` tells whether the lower limbs of `a` are worth less than those of `b`
(`borrowInto_iff`).  Of the two ways to underflow in a limb at most one is taken: a limb that was
too small leaves a positive difference, and this can pay the borrow that came in
(`not_fromLimbs_and_fromBorrow`).

A shift by `s` multiplies each limb by `2 ^ s`, keeps the remainder modulo `2 ^ 64` and hands the
quotient to the next limb (`toNat_shiftedLimb`).  What the highest limb hands on is all that can get
lost (`toNat_shiftLeft`).
-/

import StarkWire.Proofs.U256.Arith
import Mathlib.Algebra.BigOperators.Intervals
import Mathlib.Tactic.LinearCombination
import Mathlib.Tactic.Ring

namespace StarkWire
namespace U256

variable {a b : U256} {j s : ℕ}

/-! ### The lower limbs -/

/-- The limb of weight `2 ^ (64 j)`. -/
def limb (a : U256) (j : ℕ) : UInt64 := a.limbs.getD j 0

/-- The value of the first `j` limbs. -/
def lowValue (a : U256) (j : ℕ) : ℕ := ∑ i ∈ Finset.range j, (a.limb i).toNat * 2 ^ (64 * i)

/-- The next limb stands on top of the low ones. -/
theorem lowValue_succ (a : U256) (j : ℕ) :
    a.lowValue (j + 1) = a.lowValue j + (a.limb j).toNat * 2 ^ (64 * j) :=
  Finset.sum_range_succ _ j

/-- Each limb outweighs the one before it by the base of limbs. -/
theorem two_pow_limb_succ (j : ℕ) : 2 ^ (64 * (j + 1)) = limbBase * 2 ^ (64 * j) := by
  rw [Nat.mul_succ, Nat.pow_add, Nat.mul_comm]
  rfl

/-- The low `j` limbs denote a number below the weight of the next. -/
theorem lowValue_lt (a : U256) (j : ℕ) : a.lowValue j < 2 ^ (64 * j) := by
  induction j with
  | zero => exact Nat.one_pos
  | succ j ih =>
    have hmul := Nat.mul_le_mul_right (2 ^ (64 * j)) (Nat.succ_le_of_lt (a.limb j).toNat_lt)
    rw [Nat.succ_mul] at hmul
    rw [lowValue_succ, two_pow_limb_succ]
    exact (Nat.add_lt_add_right ih _).trans_le ((Nat.add_comm _ _).trans_le hmul)

/-- The four limbs by their weights are the whole value. -/
theorem lowValue_four (a : U256) : a.lowValue 4 = a.toNat := by
  have hzero : a.lowValue 0 = 0 := Finset.sum_range_zero _
  simp only [lowValue_succ, hzero, limb, limbs, toNat, limbBase, List.getD_cons_zero,
    List.getD_cons_succ]
  omega

/-! ### Borrows -/

/-- Whether limb `j` has to pay a borrow when `b` is taken from `a`. -/
def borrowInto (a b : U256) : ℕ → Bool
  | 0 => false
  | j + 1 => (subLimb (a.limb j) (b.limb j) (borrowInto a b j)).borrow

/-- What happens in limb `j` when `b` is taken from `a`. -/
def limbDifference (a b : U256) (j : ℕ) : LimbDifference :=
  subLimb (a.limb j) (b.limb j) (borrowInto a b j)

/-- The difference is made limb by limb. -/
theorem limbs_sub (a b : U256) :
    (a.sub b).limbs = (List.range 4).map fun j => (a.limbDifference b j).value :=
  rfl

/-- Each limb of the difference is the value that the chain of borrows leaves there. -/
theorem limb_sub (h : j < 4) : (a.sub b).limb j = (a.limbDifference b j).value := by
  rw [limb, limbs_sub, List.getD_eq_getElem?_getD, List.getElem?_map, List.getElem?_range h]
  rfl

/-- **The balance of the first `j` limbs.** -/
theorem lowValue_sub (h : j ≤ 4) :
    (a.sub b).lowValue j + b.lowValue j
      = a.lowValue j + 2 ^ (64 * j) * (a.borrowInto b j).toNat := by
  induction j with
  | zero => rfl
  | succ j ih =>
    have hlow := ih (Nat.le_of_succ_le h)
    have hlimb : ((a.sub b).limb j).toNat + (b.limb j).toNat + (a.borrowInto b j).toNat
        = (a.limb j).toNat + limbBase * (a.borrowInto b (j + 1)).toNat := by
      rw [limb_sub h]
      exact toNat_subLimb _ _ _
    rw [lowValue_succ, lowValue_succ, lowValue_succ, two_pow_limb_succ]
    linear_combination hlow + 2 ^ (64 * j) * hlimb

/-- **A limb pays a borrow** just when the limbs below it are worth less in `a` than in `b`. -/
theorem borrowInto_iff (h : j ≤ 4) :
    a.borrowInto b j = true ↔ a.lowValue j < b.lowValue j := by
  have hsub := lowValue_sub (a := a) (b := b) h
  have hlt := lowValue_lt (a.sub b) j
  cases hb : a.borrowInto b j
  · rw [hb, Bool.toNat_false] at hsub
    refine iff_of_false Bool.false_ne_true ?_
    omega
  · rw [hb, Bool.toNat_true] at hsub
    refine iff_of_true rfl ?_
    omega

/-- **At most one of the two borrows is set.** -/
theorem not_fromLimbs_and_fromBorrow (x y : UInt64) (c : Bool) :
    ¬ ((subLimb x y c).fromLimbs = true ∧ (subLimb x y c).fromBorrow = true) := by
  rintro ⟨hlimbs, hborrow⟩
  simp only [subLimb, decide_eq_true_eq, UInt64.lt_iff_toNat_lt, UInt64.toNat_sub,
    toNat_toUInt64] at hlimbs hborrow
  have hx := x.toNat_lt
  have hy := y.toNat_lt
  have hc := c.toNat_le
  omega

/-! ### Carries -/

/-- A shift below 64 is a limb unchanged. -/
theorem toNat_ofNat_shift (h : s < 64) : (UInt64.ofNat s).toNat = s :=
  UInt64.toNat_ofNat_of_lt' (h.trans (by decide))

/-- What a shift by `s` moves up within a limb and what it moves out of the limb below do not
overlap. -/
theorem or_eq_add {x y : ℕ} (h : y < 2 ^ s) (hs : s < 64) :
    x * 2 ^ s % 2 ^ 64 ||| y = x * 2 ^ s % 2 ^ 64 + y := by
  have hpow : 2 ^ 64 = 2 ^ (64 - s) * 2 ^ s := by
    rw [← Nat.pow_add, Nat.sub_add_cancel hs.le]
  rw [hpow, Nat.mul_mod_mul_right, ← Nat.shiftLeft_eq, Nat.shiftLeft_add_eq_or_of_lt h]

/-- A limb shifted by `s` keeps the remainder of its multiple, and takes in the quotient that the
limb below hands on. -/
theorem toNat_shiftedLimb (w below : UInt64) (hpos : 0 < s) (h : s < 64) :
    (w <<< .ofNat s ||| below >>> (64 - .ofNat s)).toNat
      = w.toNat * 2 ^ s % limbBase + below.toNat * 2 ^ s / limbBase := by
  -- what is shifted out of the limb below is its multiple divided by the limb base
  have hup : (UInt64.ofNat s).toNat % 64 = s := by
    rw [toNat_ofNat_shift h, Nat.mod_eq_of_lt h]
  have hdown : (64 - UInt64.ofNat s).toNat % 64 = 64 - s := by
    have hle : UInt64.ofNat s ≤ 64 := by
      rw [UInt64.le_iff_toNat_le, toNat_ofNat_shift h]
      exact h.le
    rw [UInt64.toNat_sub_of_le _ _ hle, toNat_ofNat_shift h]
    exact Nat.mod_eq_of_lt (Nat.sub_lt (by decide) hpos)
  have hpow : limbBase = 2 ^ (64 - s) * 2 ^ s := by
    rw [← Nat.pow_add, Nat.sub_add_cancel h.le]
    rfl
  have hout : below.toNat * 2 ^ s / limbBase = below.toNat / 2 ^ (64 - s) := by
    rw [hpow, Nat.mul_div_mul_right _ _ (Nat.two_pow_pos s)]
  have hlt : below.toNat / 2 ^ (64 - s) < 2 ^ s := by
    rw [Nat.div_lt_iff_lt_mul (Nat.two_pow_pos _), Nat.mul_comm, ← hpow]
    exact below.toNat_lt
  rw [UInt64.toNat_or, UInt64.toNat_shiftLeft, UInt64.toNat_shiftRight, hup, hdown,
    Nat.shiftRight_eq_div_pow, Nat.shiftLeft_eq, or_eq_add hlt h, hout]
  rfl

/-- **A shift multiplies** modulo `2 ^ 256`. -/
theorem toNat_shiftLeft (a : U256) (h : s < 64) :
    (a.shiftLeft (.ofNat s)).toNat = a.toNat * 2 ^ s % bound := by
  rcases Nat.eq_zero_or_pos s with rfl | hpos
  · rw [shiftLeft, if_pos (show UInt64.ofNat 0 = 0 from rfl), Nat.pow_zero, Nat.mul_one,
      Nat.mod_eq_of_lt a.toNat_lt]
  · have hne : UInt64.ofNat s ≠ 0 := by
      intro hzero
      have hval := congrArg UInt64.toNat hzero
      rw [toNat_ofNat_shift h] at hval
      exact hpos.ne' hval
    have hlow : (a.l0 <<< UInt64.ofNat s).toNat = a.l0.toNat * 2 ^ s % limbBase := by
      simpa using toNat_shiftedLimb a.l0 0 hpos h
    have hmul : a.toNat * 2 ^ s = a.l0.toNat * 2 ^ s + limbBase * (a.l1.toNat * 2 ^ s
        + limbBase * (a.l2.toNat * 2 ^ s + limbBase * (a.l3.toNat * 2 ^ s))) := by
      rw [toNat]
      ring
    have hlt := (a.shiftLeft (.ofNat s)).toNat_lt
    rw [hmul]
    rw [shiftLeft, if_neg hne] at hlt ⊢
    simp only [toNat, hlow, toNat_shiftedLimb _ _ hpos h, limbBase, bound] at hlt ⊢
    omega

/-! ### The arithmetic of four limbs -/

/-- All values are below `2 ^ 256`. -/
theorem bound_eq : bound = 2 ^ 256 := by norm_num [bound]

/-- What subtraction, comparison and shifting compute, and what happens in the limbs of a difference
on the way. -/
structure LimbArithmetic (a b : U256) : Prop where
  sub_value : ((a.sub b).toNat : ℤ) = ((a.toNat : ℤ) - b.toNat) % 2 ^ 256
  sub_exact_iff : ((a.sub b).toNat : ℤ) = (a.toNat : ℤ) - b.toNat ↔ b.toNat ≤ a.toNat
  sub_limbs : (a.sub b).limbs = (List.range 4).map fun j => (a.limbDifference b j).value
  one_borrow (j : ℕ) :
    ¬ ((a.limbDifference b j).fromLimbs = true ∧ (a.limbDifference b j).fromBorrow = true)
  borrow_iff (j : ℕ) (h : j ≤ 4) : a.borrowInto b j = true ↔ a.lowValue j < b.lowValue j
  ge_iff : a.ge b = true ↔ b.toNat ≤ a.toNat
  shift_value (s : ℕ) (h : s < 64) :
    (a.shiftLeft (.ofNat s)).toNat = a.toNat * 2 ^ s % 2 ^ 256
  shift_exact_iff (s : ℕ) (h : s < 64) :
    (a.shiftLeft (.ofNat s)).toNat = a.toNat * 2 ^ s ↔ a.toNat * 2 ^ s < 2 ^ 256

/-- **Subtraction is that of integers modulo `2 ^ 256`.** -/
theorem toNat_sub_eq_emod (a b : U256) :
    ((a.sub b).toNat : ℤ) = ((a.toNat : ℤ) - b.toNat) % bound := by
  have ha := a.toNat_lt
  have hb := b.toNat_lt
  rw [toNat_sub]
  simp only [bound] at *
  omega

/-- Subtraction is exact just when nothing is borrowed from beyond the top. -/
theorem toNat_sub_eq_iff (a b : U256) :
    ((a.sub b).toNat : ℤ) = (a.toNat : ℤ) - b.toNat ↔ b.toNat ≤ a.toNat := by
  constructor
  · -- a difference is never negative
    intro h
    omega
  · intro h
    rw [toNat_sub_of_le h, Nat.cast_sub h]

/-- A shift is exact just when nothing falls off the top. -/
theorem toNat_shiftLeft_eq_iff (a : U256) (h : s < 64) :
    (a.shiftLeft (.ofNat s)).toNat = a.toNat * 2 ^ s ↔ a.toNat * 2 ^ s < bound := by
  rw [toNat_shiftLeft a h]
  exact Nat.mod_eq_iff_lt (by decide)

/-- **The arithmetic of four limbs.** -/
theorem limb_arithmetic (a b : U256) : LimbArithmetic a b where
  sub_value := by
    have h := toNat_sub_eq_emod a b
    rwa [bound_eq, Nat.cast_pow] at h
  sub_exact_iff := toNat_sub_eq_iff a b
  sub_limbs := limbs_sub a b
  one_borrow _ := not_fromLimbs_and_fromBorrow _ _ _
  borrow_iff _ h := borrowInto_iff h
  ge_iff := U256.ge_iff a b
  shift_value _ h := by
    rw [← bound_eq]
    exact toNat_shiftLeft a h
  shift_exact_iff _ h := by
    rw [← bound_eq]
    exact toNat_shiftLeft_eq_iff a h

/-- One less than `2 ^ 192` takes a borrow through three limbs, two of them zero. -/
example : (sub ⟨0, 0, 0, 1⟩ ⟨1, 0, 0, 0⟩ : U256)
    = ⟨0xffffffffffffffff, 0xffffffffffffffff, 0xffffffffffffffff, 0⟩ := by decide

end U256
end StarkWire
