/-
# What is written as hex

A byte is written as two digits, its high half first (`hexOfBytes_eq`), so bytes with the most
significant first are written as the digits of their value (`hexChars_reverse`); of the wire bytes of
a value in reverse these are the low 64 digits of the value (`U256.hexChars_encode`).

Without the zeros in front, but for the last one of zero, they are what follows the marker `0x`
(`U256.writtenDigits`).  As `w` digits write a number modulo `16 ^ w` (`hexValue_hexDigits`), what is
written is a hex text worth the value, and reading it gives the value back (`U256.ofHex_toHex`).
-/

import StarkWire.Proofs.U256.HexGrammar
import Mathlib.Data.List.DropRight

namespace StarkWire

/-- As many digits are written as are asked for. -/
theorem length_hexDigits (w n : ℕ) : (hexDigits w n).length = w := by
  induction w generalizing n with
  | zero => rfl
  | succ w ih => rw [hexDigits, List.length_append, ih, List.length_singleton]

/-- A digit is written as the one that is worth it. -/
theorem digitChar_mem_hexAlphabet : ∀ m < 16,
    Nat.digitChar m ∈ hexAlphabet ∧ hexDigitValue (Nat.digitChar m) = m := by
  decide

/-- What is written is lowercase. -/
theorem mem_hexAlphabet_of_mem_hexDigits {w n : ℕ} {c : Char} (h : c ∈ hexDigits w n) :
    c ∈ hexAlphabet := by
  induction w generalizing n with
  | zero => cases h
  | succ w ih =>
    rw [hexDigits, List.mem_append, List.mem_singleton] at h
    rcases h with h | rfl
    · exact ih h
    · exact (digitChar_mem_hexAlphabet _ (Nat.mod_lt n (by decide))).1

/-- The digits of the alphabet are digits. -/
theorem isHexDigit_of_mem_hexAlphabet : ∀ c ∈ hexAlphabet, IsHexDigit c := by
  simp only [hexAlphabet, List.forall_mem_cons, List.not_mem_nil, false_implies, implies_true,
    and_true]
  decide

/-- **`w` digits write a number modulo `16 ^ w`.** -/
theorem hexValue_hexDigits (w n : ℕ) : hexValue (hexDigits w n) = n % 16 ^ w := by
  induction w generalizing n with
  | zero => rw [Nat.pow_zero, Nat.mod_one]; rfl
  | succ w ih =>
    rw [hexDigits, hexValue_append, ih, hexValue_singleton,
      (digitChar_mem_hexAlphabet _ (Nat.mod_lt n (by decide))).2, Nat.pow_succ', Nat.mod_mul,
      List.length_singleton, Nat.pow_one, Nat.add_comm]

/-- The digit worth a number below 16. -/
def lowerDigit (m : ℕ) : Char := hexAlphabet.getD m '0'

/-- The digit worth a number is the one at its place in the alphabet. -/
theorem digitChar_eq_lowerDigit : ∀ m < 16, Nat.digitChar m = lowerDigit m := by
  decide

/-- The two digits of a byte. -/
def hexPair (b : UInt8) : List Char := [lowerDigit (b.toNat / 16), lowerDigit (b.toNat % 16)]

/-- **A byte is written as the digits of its halves.** -/
theorem hexOfBytes_eq (bytes : List UInt8) :
    hexOfBytes bytes = String.ofList (bytes.flatMap hexPair) := by
  have hpair : ∀ b : UInt8, hexDigits 2 b.toNat = hexPair b := by
    intro b
    have hb := b.toNat_lt
    have hhigh : b.toNat / 16 % 16 = b.toNat / 16 := Nat.mod_eq_of_lt (by omega)
    simp only [hexDigits, hexPair, hhigh, List.nil_append, List.singleton_append]
    rw [digitChar_eq_lowerDigit _ (by omega), digitChar_eq_lowerDigit _ (by omega)]
  simp only [hexOfBytes, hexChars, hpair]

/-- Two more digits of a number, in front of which stand the digits of what is above a byte. -/
theorem hexDigits_add_two (w v : ℕ) (b : UInt8) :
    hexDigits (w + 2) (b.toNat + 256 * v) = hexDigits w v ++ hexDigits 2 b.toNat := by
  have hb := b.toNat_lt
  have hlow : (b.toNat + 256 * v) % 16 = b.toNat % 16 := by omega
  have hhigh : (b.toNat + 256 * v) / 16 % 16 = b.toNat / 16 % 16 := by omega
  have hrest : (b.toNat + 256 * v) / 16 / 16 = v := by omega
  simp only [hexDigits, hlow, hhigh, hrest, List.nil_append, List.append_assoc]

/-- **Bytes in reverse are written as their value,** in two digits for each. -/
theorem hexChars_reverse (bytes : List UInt8) :
    hexChars bytes.reverse = hexDigits (2 * bytes.length) (leValue bytes) := by
  induction bytes with
  | nil => rfl
  | cons b rest ih =>
    rw [hexChars] at ih ⊢
    rw [List.reverse_cons, List.flatMap_append, ih, List.flatMap_singleton, List.length_cons,
      Nat.mul_succ, leValue, hexDigits_add_two]

namespace U256

/-- Of limbs and bytes to digits: the 64 digits that are written are those of the value. -/
theorem hexChars_encode (a : U256) :
    hexChars a.encode.toList.reverse = hexDigits maxHexDigits a.toNat := by
  have hvalue : leValue a.encode.toList = a.toNat := a.value_encode
  rw [hexChars_reverse, a.encode.length_toList, hvalue]
  rfl

/-- The digits that a value is written with. -/
def writtenDigits (a : U256) : List Char :=
  match (hexDigits maxHexDigits a.toNat).dropWhile (· = '0') with
  | [] => ['0']
  | digits => digits

/-- What is written is the marker and the digits of the value. -/
theorem toHexChars_eq (a : U256) : a.toHexChars = '0' :: 'x' :: a.writtenDigits := by
  unfold toHexChars writtenDigits
  rw [hexChars_encode]
  generalize (hexDigits maxHexDigits a.toNat).dropWhile (· = '0') = digits
  cases digits <;> rfl

/-- The digits are the significant ones, or a single zero where there are none. -/
theorem dropWhile_writtenDigits (a : U256) :
    a.writtenDigits.dropWhile (· = '0') = (hexDigits maxHexDigits a.toNat).dropWhile (· = '0') := by
  have hidem := List.dropWhile_idempotent (· = '0') (hexDigits maxHexDigits a.toNat)
  unfold writtenDigits
  generalize (hexDigits maxHexDigits a.toNat).dropWhile (· = '0') = digits at hidem ⊢
  cases digits
  · rfl
  · exact hidem

/-- A value is written in lowercase, zero included. -/
theorem mem_hexAlphabet_of_mem_writtenDigits {a : U256} {c : Char} (h : c ∈ a.writtenDigits) :
    c ∈ hexAlphabet := by
  unfold writtenDigits at h
  split at h
  · rw [List.mem_singleton.1 h]
    exact List.mem_cons_self
  · exact mem_hexAlphabet_of_mem_hexDigits ((List.dropWhile_sublist _).subset h)

/-- The zeros that are left out do not count. -/
theorem hexValue_writtenDigits (a : U256) : hexValue a.writtenDigits = a.toNat := by
  have hbound : a.toNat < 16 ^ maxHexDigits := a.toNat_lt.trans_le (by decide)
  rw [← hexValue_dropWhile, dropWhile_writtenDigits, hexValue_dropWhile, hexValue_hexDigits,
    Nat.mod_eq_of_lt hbound]

/-- **What is written is a hex text,** with the marker and at most 64 digits. -/
theorem isHexText_toHexChars (a : U256) : IsHexText a.toHexChars a.writtenDigits where
  marked := .inr (.inl a.toHexChars_eq)
  nonempty := by
    unfold writtenDigits
    generalize (hexDigits maxHexDigits a.toNat).dropWhile (· = '0') = digits
    cases digits <;> exact List.cons_ne_nil _ _
  isDigit c hc := isHexDigit_of_mem_hexAlphabet c (mem_hexAlphabet_of_mem_writtenDigits hc)
  significant := by
    rw [dropWhile_writtenDigits]
    exact (List.dropWhile_sublist _).length_le.trans_eq (length_hexDigits _ _)

/-- A hex text worth the value is read as it. -/
theorem ofHexChars_toHexChars (a : U256) : ofHexChars a.toHexChars = .ok a := by
  rw [ofHexChars_of_isHexText a.isHexText_toHexChars, hexValue_writtenDigits, ofNat_toNat]

/-- **What is written is read back.** -/
@[simp] theorem ofHex_toHex (a : U256) : ofHex a.toHex = .ok a := by
  rw [ofHex, toHex, String.toList_ofList, ofHexChars_toHexChars]

end U256
end StarkWire
