/-
# The value of bytes

`n` bytes denote the numbers below `256 ^ n`: each is the value of its own low `n` bytes
(`leValue_leBytes`), and the value of a string of bytes is the value of its front plus the value
of its back times the weight of the back's first byte (`leValue_append`).
-/

import StarkWire.Bytes
import Mathlib.Algebra.Order.Ring.Nat

namespace StarkWire

/-- `n` bytes denote a number below `256 ^ n`. -/
theorem leValue_lt (bytes : List UInt8) : leValue bytes < 256 ^ bytes.length := by
  induction bytes with
  | nil => simp [leValue]
  | cons b rest ih =>
    have hb := b.toNat_lt
    simp only [leValue, List.length_cons, Nat.pow_succ]
    omega

/-- The second part of a byte string weighs as much as the byte that it starts with. -/
theorem leValue_append (a b : List UInt8) :
    leValue (a ++ b) = leValue a + 256 ^ a.length * leValue b := by
  induction a with
  | nil => simp [leValue]
  | cons x rest ih =>
    simp only [List.cons_append, leValue, ih, List.length_cons, Nat.pow_succ, Nat.mul_add]
    rw [Nat.mul_comm (256 ^ rest.length) 256, Nat.mul_assoc, Nat.add_assoc]

/-- The low `n` bytes of a number denote it modulo `256 ^ n`. -/
theorem leValue_leBytes (n v : Nat) : leValue (leBytes n v) = v % 256 ^ n := by
  induction n generalizing v with
  | zero => simp [leBytes, leValue, Nat.mod_one]
  | succ n ih =>
    have hb : (UInt8.ofNat v).toNat = v % 256 := UInt8.toNat_ofNat'
    rw [leBytes, leValue, ih, hb, Nat.pow_succ, Nat.mul_comm (256 ^ n) 256, Nat.mod_mul]

end StarkWire
