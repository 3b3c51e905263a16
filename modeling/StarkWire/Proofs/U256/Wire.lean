/-
# Limbs and wire bytes denote the same number

Reading 32 bytes keeps their value (`toNat_decode`), and writing a value gives bytes of that value
(`value_encode`), so the two are mutually inverse: a value below `2 ^ 256` has one form of each
kind.  A field element leaves as the 32 bytes of its representative (`toList_toWire`), and what
left it comes back unchanged.
-/

import StarkWire.Bytes.Value
import StarkWire.Signature
import StarkWire.Field
import Mathlib.Tactic.NormNum

namespace StarkWire

namespace Bytes

/-- The number that the bytes denote. -/
def value {n : ℕ} (b : Bytes n) : ℕ := leValue b.toList

/-- The low `n` bytes of a number. -/
def ofValue (n v : ℕ) : Bytes n := ⟨leBytes n v, length_leBytes n v⟩

variable {n : ℕ}

/-- Bytes are the low bytes of their value. -/
@[simp] theorem ofValue_value (b : Bytes n) : ofValue n b.value = b := by
  ext1
  have h := leBytes_leValue b.toList
  rwa [b.length_toList] at h

/-- Bytes of one length are told by their value. -/
theorem value_injective : Function.Injective (value (n := n)) := by
  intro a b h
  rw [← ofValue_value a, h, ofValue_value]

end Bytes

namespace U256

/-- A limb outweighs the one before it by eight bytes. -/
theorem limbBase_eq : limbBase = 256 ^ 8 := by norm_num [limbBase]

/-- A limb denotes what the eight bytes at its place do; these fit into a limb. -/
theorem toNat_limbAt (b : List UInt8) (j : ℕ) :
    (limbAt b j).toNat = leValue ((b.drop (limbSize * j)).take limbSize) := by
  have h := leValue_lt ((b.drop (limbSize * j)).take limbSize)
  have hp : 256 ^ ((b.drop (limbSize * j)).take limbSize).length ≤ 2 ^ 64 :=
    (Nat.pow_le_pow_right (by decide) (List.length_take_le _ _)).trans (by decide)
  rw [limbAt, UInt64.toNat_ofNat', Nat.mod_eq_of_lt (h.trans_le hp)]

/-- The eight bytes of a limb denote it. -/
theorem leValue_limbBytes (w : UInt64) : leValue (limbBytes w) = w.toNat := by
  have h := w.toNat_lt
  rw [limbBytes, leValue_leBytes, Nat.mod_eq_of_lt]
  norm_num [limbSize]
  omega

/-- A list of bytes is worth its first eight and, one limb weight up, the rest. -/
theorem leValue_eq_take_add_drop {b : List UInt8} (h : limbSize ≤ b.length) :
    leValue b = leValue (b.take limbSize) + limbBase * leValue (b.drop limbSize) := by
  have hl : (b.take limbSize).length = 8 := List.length_take_of_le h
  have hv := leValue_append (b.take limbSize) (b.drop limbSize)
  rwa [List.take_append_drop, hl, ← limbBase_eq] at hv

/-- **Reading keeps the value.**  The bytes are cut off eight by eight, as the limbs are read. -/
theorem toNat_decode (b : Bytes 32) : (decode b).toNat = b.value := by
  have hl := b.length_toList
  have h₀ := leValue_eq_take_add_drop (b := b.toList) (by simp [hl, limbSize])
  have h₁ := leValue_eq_take_add_drop (b := b.toList.drop 8) (by simp [hl, limbSize])
  have h₂ := leValue_eq_take_add_drop (b := b.toList.drop 16) (by simp [hl, limbSize])
  have h₃ : b.toList.drop 24 = (b.toList.drop 24).take 8 := by
    rw [List.take_of_length_le (by simp [hl])]
  simp only [limbSize, List.drop_drop] at h₀ h₁ h₂
  simp only [toNat, decode, toNat_limbAt, limbSize, Bytes.value, Nat.reduceMul, List.drop_zero]
  rw [h₀, h₁, h₂, ← h₃]

/-- **Writing keeps the value.** -/
theorem value_encode (a : U256) : a.encode.value = a.toNat := by
  have hw : ∀ w, (limbBytes w).length = limbSize := fun w => length_leBytes _ _
  simp only [Bytes.value, encode, leValue_append, leValue_limbBytes, List.length_append, hw, toNat,
    limbSize]
  norm_num [limbBase]
  omega

/-- What is written is read back: a value is told by the number that it denotes. -/
@[simp] theorem decode_encode (a : U256) : decode a.encode = a :=
  toNat_inj (by rw [toNat_decode, value_encode])

/-- What is read is written back: 32 bytes are told by their value. -/
@[simp] theorem encode_decode (b : Bytes 32) : (decode b).encode = b :=
  Bytes.value_injective (by rw [value_encode, toNat_decode])

end U256

namespace Signature

/-- A signature is read back as it was written. -/
@[simp] theorem decode_encode (s : Signature) : decode s.encode = s := by
  simp [decode, encode]

/-- A signature is written back as it was read. -/
@[simp] theorem encode_decode (b : Bytes 64) : (decode b).encode = b := by
  simp [decode, encode]

end Signature

namespace Fp

/-- An element denotes its representative on the wire. -/
theorem value_toWire (a : Fp) : a.toWire.value = a.val := by
  rw [toWire, U256.value_encode, toNat_toU256]

/-- **The canonical form:** the bytes of the least representative. -/
theorem toWire_eq (a : Fp) : a.toWire = Bytes.ofValue 32 a.val := by
  rw [← value_toWire, Bytes.ofValue_value]

/-- An element comes back from the wire as it was. -/
@[simp] theorem ofU256_decode_toWire (a : Fp) : ofU256 (U256.decode a.toWire) = a := by
  rw [toWire, U256.decode_encode, ofU256_toU256]

end Fp
end StarkWire
