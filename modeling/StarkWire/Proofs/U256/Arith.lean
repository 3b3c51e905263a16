/-
# What four-limb subtraction and comparison compute

In one limb, difference plus subtrahend plus incoming borrow is the minuend plus the outgoing
borrow times the weight of the next limb (`toNat_subLimb`).  Adding this up over the four limbs the
borrows cancel, all but the last, so `sub` is subtraction modulo `2 ^ 256` (`toNat_sub`).  The
highest limb in which two values differ outweighs all below it, so `ge` compares the values
(`ge_iff`).
-/

import StarkWire.U256.Arith
import Mathlib.Data.Nat.Notation
import Mathlib.Tactic.SplitIfs

namespace StarkWire
namespace U256

/-- A flag counts as 0 or 1 in a limb. -/
theorem toNat_toUInt64 (c : Bool) : c.toUInt64.toNat = c.toNat := by cases c <;> rfl

/-- **The balance of one limb.** -/
theorem toNat_subLimb (a b : UInt64) (c : Bool) :
    (subLimb a b c).value.toNat + b.toNat + c.toNat
      = a.toNat + limbBase * (subLimb a b c).borrow.toNat := by
  have ha := a.toNat_lt
  have hb := b.toNat_lt
  have hc := c.toNat_le
  have h₁ : (a - b).toNat + b.toNat = a.toNat + limbBase * (decide (a < b)).toNat := by
    simp only [UInt64.toNat_sub, UInt64.lt_iff_toNat_lt, limbBase]
    rcases Nat.lt_or_ge a.toNat b.toNat with h | h
    · simp only [h, decide_true, Bool.toNat_true]
      omega
    · simp only [Nat.not_lt.2 h, decide_false, Bool.toNat_false]
      omega
  have h₂ : (a - b - c.toUInt64).toNat + c.toNat
      = (a - b).toNat + limbBase * (decide (a - b < c.toUInt64)).toNat := by
    have hd := (a - b).toNat_lt
    simp only [UInt64.toNat_sub (a - b), UInt64.lt_iff_toNat_lt, toNat_toUInt64, limbBase]
    rcases Nat.lt_or_ge (a - b).toNat c.toNat with h | h
    · simp only [h, decide_true, Bool.toNat_true]
      omega
    · simp only [Nat.not_lt.2 h, decide_false, Bool.toNat_false]
      omega
  -- at most one of the two borrows is set, as `a - b` is not zero after an underflow
  have hor : (decide (a < b) || decide (a - b < c.toUInt64)).toNat
      = (decide (a < b)).toNat + (decide (a - b < c.toUInt64)).toNat := by
    cases h₃ : decide (a < b)
    · simp
    · cases h₄ : decide (a - b < c.toUInt64)
      · rfl
      · rw [h₃] at h₁
        rw [h₄] at h₂
        have hd := (a - b - c.toUInt64).toNat_lt
        simp only [Bool.toNat_true, limbBase] at h₁ h₂
        omega
  simp only [subLimb, LimbDifference.borrow, hor]
  rw [Nat.mul_add]
  omega

/-- **Subtraction wraps around at `2 ^ 256`,** whatever is borrowed from limb to limb. -/
theorem toNat_sub (a b : U256) : (sub a b).toNat = (a.toNat + (bound - b.toNat)) % bound := by
  have h₀ := toNat_subLimb a.l0 b.l0 false
  have h₁ := toNat_subLimb a.l1 b.l1 (subLimb a.l0 b.l0 false).borrow
  have h₂ := toNat_subLimb a.l2 b.l2 (subLimb a.l1 b.l1 (subLimb a.l0 b.l0 false).borrow).borrow
  have h₃ := toNat_subLimb a.l3 b.l3
    (subLimb a.l2 b.l2 (subLimb a.l1 b.l1 (subLimb a.l0 b.l0 false).borrow).borrow).borrow
  have hlt := (sub a b).toNat_lt
  have ha := a.toNat_lt
  have hb := b.toNat_lt
  simp only [sub, toNat, limbBase, bound, Bool.toNat_false] at *
  omega

/-- What is at most as large is subtracted as numbers are. -/
theorem toNat_sub_of_le {a b : U256} (h : b.toNat ≤ a.toNat) :
    (sub a b).toNat = a.toNat - b.toNat := by
  have ha := a.toNat_lt
  have hb := b.toNat_lt
  rw [toNat_sub]
  simp only [bound] at *
  omega

/-- Values are compared as the numbers that they denote, though limb by limb from the top. -/
theorem ge_iff (a b : U256) : ge a b = true ↔ b.toNat ≤ a.toNat := by
  have ha₀ := a.l0.toNat_lt
  have ha₁ := a.l1.toNat_lt
  have ha₂ := a.l2.toNat_lt
  have hb₀ := b.l0.toNat_lt
  have hb₁ := b.l1.toNat_lt
  have hb₂ := b.l2.toNat_lt
  unfold ge
  simp only [toNat, limbBase]
  split_ifs <;>
    simp only [decide_eq_true_eq, UInt64.lt_iff_toNat_lt, ne_eq, Decidable.not_not,
      ← UInt64.toNat_inj, true_iff] at * <;>
    omega

end U256
end StarkWire
