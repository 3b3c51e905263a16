/-
# The codecs are exact

| from | to | what is kept |
| --- | --- | --- |
| 32 bytes | four limbs | the number: byte `i` weighs `256 ^ i`, limb `j` weighs `2 ^ (64 j)` |
| 64 bytes | a signature | the first half is `r`, the last half is `w` |
| a buffer | either of these | the bytes, if there are as many as wanted |
| four limbs | a field element | the number modulo the field prime |

The first two lose nothing in either direction.  Writing into a buffer overwrites it piece by piece
from the front (`U256.splice_limbBytes`), so nothing of what it held is left (`U256.encodeInto_eq`).
The last one is undone by the representative, and only a value below the prime is its own
representative (`Fp.toU256_ofU256_eq_iff`).
-/

import StarkWire.Proofs.Bridge.Arguments
import StarkWire.Proofs.U256.Limbs

namespace StarkWire

/-- The value of bytes is the sum of the bytes by their weights. -/
theorem leValue_eq_sum (bytes : List UInt8) :
    leValue bytes = ∑ i ∈ Finset.range bytes.length, (bytes.getD i 0).toNat * 256 ^ i := by
  induction bytes with
  | nil => rfl
  | cons b rest ih =>
    rw [leValue, ih, List.length_cons, Finset.sum_range_succ', Finset.mul_sum, Nat.add_comm]
    simp only [List.getD_cons_succ, List.getD_cons_zero, Nat.pow_zero, Nat.mul_one]
    congr 1
    refine Finset.sum_congr rfl fun i _ => ?_
    rw [Nat.pow_succ]
    ring

namespace Bytes

variable {n : ℕ}

/-- Byte `i`; zero past the end. -/
def byteAt (b : Bytes n) (i : ℕ) : UInt8 := b.toList.getD i 0

/-- The value of bytes is the sum of the bytes, byte `i` with the weight `256 ^ i`. -/
theorem value_eq_sum (b : Bytes n) :
    b.value = ∑ i ∈ Finset.range n, (b.byteAt i).toNat * 256 ^ i := by
  have h := leValue_eq_sum b.toList
  rwa [b.length_toList] at h

end Bytes

namespace U256

variable {j : ℕ}

/-- A limb is the value of its eight bytes. -/
theorem toNat_limb_decode (b : Bytes 32) (h : j < 4) :
    ((decode b).limb j).toNat
      = ∑ i ∈ Finset.range 8, (b.byteAt (8 * j + i)).toNat * 256 ^ i := by
  have hlimb : (decode b).limb j = limbAt b.toList j := by
    interval_cases j <;> rfl
  have hlen : ((b.toList.drop (8 * j)).take 8).length = 8 := by
    rw [List.length_take, List.length_drop, b.length_toList]
    omega
  rw [hlimb, toNat_limbAt, limbSize, leValue_eq_sum, hlen]
  refine Finset.sum_congr rfl fun i hi => ?_
  rw [List.getD_eq_getElem?_getD, List.getElem?_take_of_lt (Finset.mem_range.1 hi),
    List.getElem?_drop, Bytes.byteAt, List.getD_eq_getElem?_getD]

/-- A limb takes eight bytes. -/
theorem length_limbBytes (w : UInt64) : (limbBytes w).length = 8 := length_leBytes _ _

/-- A limb written right after a front part takes the place of the next eight bytes. -/
theorem splice_limbBytes (buffer : Buffer) {front : List UInt8} {place : ℕ}
    (h : front.length = place) (w : UInt64) :
    Buffer.splice (front ++ buffer.drop place) place (limbBytes w)
      = (front ++ limbBytes w) ++ buffer.drop (place + 8) := by
  subst h
  rw [Buffer.splice, List.take_left, List.drop_length_add_append, length_limbBytes,
    List.drop_drop]

/-- Whatever a buffer held, all of it is overwritten. -/
theorem encodeInto_eq (a : U256) (buffer : Bytes 32) : a.encodeInto buffer = a.encode := by
  have hend : buffer.toList.drop 32 = [] := List.drop_eq_nil_of_le buffer.length_toList.le
  have h₀ : Buffer.splice buffer.toList 0 (limbBytes a.l0)
      = limbBytes a.l0 ++ buffer.toList.drop 8 :=
    splice_limbBytes buffer.toList (show ([] : List UInt8).length = 0 from rfl) a.l0
  ext1
  rw [encodeInto, encode]
  dsimp only
  rw [h₀, splice_limbBytes _ (length_limbBytes _), splice_limbBytes _ (by simp [length_limbBytes]),
    splice_limbBytes _ (by simp [length_limbBytes]), hend, List.append_nil]

end U256

/-! ### Buffers -/

section Buffers

variable {α : Type} {n : ℕ} {argument : String} {buffer : Buffer} {f : Bytes n → α}

/-- A reader of another length names the argument and both lengths. -/
theorem map_checkLength_of_length_ne (h : buffer.length ≠ n) :
    (checkLength argument n buffer).map f = .error (.length argument n buffer.length) := by
  rw [checkLength, Bytes.ofBuffer?, dif_neg h]
  rfl

/-- What a reader makes of a buffer, it makes of the bytes. -/
theorem map_checkLength_eq_ok_iff {a : α} :
    (checkLength argument n buffer).map f = .ok a ↔ ∃ b : Bytes n, b.toList = buffer ∧ f b = a := by
  constructor
  · intro h
    by_cases hlen : buffer.length = n
    · refine ⟨⟨buffer, hlen⟩, rfl, ?_⟩
      rw [show buffer = (⟨buffer, hlen⟩ : Bytes n).toList from rfl, checkLength_toList] at h
      exact Except.ok.inj h
    · rw [map_checkLength_of_length_ne hlen] at h
      cases h
  · rintro ⟨b, rfl, rfl⟩
    rw [checkLength_toList]
    rfl

/-- A buffer is read just when it has the length wanted. -/
theorem exists_map_checkLength_iff :
    (∃ a, (checkLength argument n buffer).map f = .ok a) ↔ buffer.length = n := by
  simp only [map_checkLength_eq_ok_iff]
  constructor
  · rintro ⟨a, b, rfl, -⟩
    exact b.length_toList
  · intro h
    exact ⟨f ⟨buffer, h⟩, ⟨buffer, h⟩, rfl, rfl⟩

end Buffers

/-! ### Field elements -/

namespace Fp

/-- The representative of a value is the value's remainder. -/
theorem toNat_toU256_ofU256 (a : U256) : (ofU256 a).toU256.toNat = a.toNat % prime :=
  toNat_toU256 (ofU256 a)

/-- A value survives the way through the field just when it is below the prime. -/
theorem toU256_ofU256_eq_iff (a : U256) : (ofU256 a).toU256 = a ↔ a.toNat < prime := by
  rw [← Nat.mod_eq_iff_lt prime_pos.ne', ← toNat_toU256_ofU256]
  exact ⟨congrArg U256.toNat, U256.toNat_inj⟩

/-- A value enters the field by its wire bytes. -/
theorem ofU256_eq_ofNat_value (a : U256) : ofU256 a = ofNat a.encode.value := by
  rw [U256.value_encode]
  rfl

/-- An element leaves the field by the bytes of its representative. -/
theorem toU256_eq_decode (a : Fp) : a.toU256 = U256.decode (.ofValue 32 a.val) := by
  rw [← toWire_eq, toWire, U256.decode_encode]

end Fp

/-! ### All of them -/

/-- Bytes, limbs and value of an element determine each other. -/
structure ElementCodec (e : U256) (b : Bytes 32) : Prop where
  value_of_bytes : (U256.decode b).toNat = ∑ i ∈ Finset.range 32, (b.byteAt i).toNat * 256 ^ i
  value_of_limbs : e.toNat = ∑ j ∈ Finset.range 4, (e.limb j).toNat * 2 ^ (64 * j)
  limb_of_bytes (j : ℕ) (h : j < 4) : ((U256.decode b).limb j).toNat
    = ∑ i ∈ Finset.range 8, (b.byteAt (8 * j + i)).toNat * 256 ^ i
  encode_decode : (U256.decode b).encode = b
  decode_encode : U256.decode e.encode = e
  encode_into (buffer : Bytes 32) : e.encodeInto buffer = e.encode

/-- Signatures and 64 bytes determine each other, `r` the first half and `w` the last. -/
structure SignatureCodec (s : Signature) (b : Bytes 64) : Prop where
  encode_decode : (Signature.decode b).encode = b
  decode_encode : Signature.decode s.encode = s
  written : s.encode.toList = s.r.encode.toList ++ s.w.encode.toList
  r_of_bytes : (Signature.decode b).r.encode.toList = b.toList.take 32
  w_of_bytes : (Signature.decode b).w.encode.toList = b.toList.drop 32

/-- Buffers of one length are decoded, all others are rejected with the length that they have. -/
structure BufferReaders (argument : String) (buffer : Buffer) : Prop where
  element_iff : (∃ a, readElement argument buffer = .ok a) ↔ buffer.length = 32
  element_decode (b : Bytes 32) (h : b.toList = buffer) :
    readElement argument buffer = .ok (U256.decode b)
  element_error (h : buffer.length ≠ 32) :
    readElement argument buffer = .error (.length argument 32 buffer.length)
  signature_iff : (∃ s, Signature.read buffer = .ok s) ↔ buffer.length = 64
  signature_decode (b : Bytes 64) (h : b.toList = buffer) :
    Signature.read buffer = .ok (Signature.decode b)
  signature_error (h : buffer.length ≠ 64) :
    Signature.read buffer = .error (.length "signature" 64 buffer.length)

/-- Values enter the field, and elements leave it, by their wire bytes; what leaves comes back, and
what enters comes back as its remainder. -/
structure FieldConversion (f : Fp) (e : U256) : Prop where
  enters : Fp.ofU256 e = .ofNat e.encode.value
  leaves : f.toU256 = U256.decode (.ofValue 32 f.val)
  comes_back : Fp.ofU256 f.toU256 = f
  remainder : (Fp.ofU256 e).toU256.toNat = e.toNat % Fp.prime
  same_iff : (Fp.ofU256 e).toU256 = e ↔ e.toNat < Fp.prime

/-- **The codec of an element is exact.** -/
theorem elementCodec (e : U256) (b : Bytes 32) : ElementCodec e b where
  value_of_bytes := (U256.toNat_decode b).trans b.value_eq_sum
  value_of_limbs := e.lowValue_four.symm
  limb_of_bytes _ h := U256.toNat_limb_decode b h
  encode_decode := U256.encode_decode b
  decode_encode := U256.decode_encode e
  encode_into := U256.encodeInto_eq e

/-- **The codec of a signature is exact,** as both halves are. -/
theorem signatureCodec (s : Signature) (b : Bytes 64) : SignatureCodec s b where
  encode_decode := Signature.encode_decode b
  decode_encode := Signature.decode_encode s
  written := rfl
  r_of_bytes := congrArg Bytes.toList (U256.encode_decode _)
  w_of_bytes := congrArg Bytes.toList (U256.encode_decode _)

/-- **Readers look at the length first,** and read whatever has the right one. -/
theorem bufferReaders (argument : String) (buffer : Buffer) : BufferReaders argument buffer where
  element_iff := exists_map_checkLength_iff
  element_decode b h := map_checkLength_eq_ok_iff.2 ⟨b, h, rfl⟩
  element_error h := map_checkLength_of_length_ne h
  signature_iff := exists_map_checkLength_iff
  signature_decode b h := map_checkLength_eq_ok_iff.2 ⟨b, h, rfl⟩
  signature_error h := map_checkLength_of_length_ne h

/-- **Going to the field and back** reduces modulo the prime and loses nothing else. -/
theorem fieldConversion (f : Fp) (e : U256) : FieldConversion f e where
  enters := Fp.ofU256_eq_ofNat_value e
  leaves := Fp.toU256_eq_decode f
  comes_back := Fp.ofU256_toU256 f
  remainder := Fp.toNat_toU256_ofU256 e
  same_iff := Fp.toU256_ofU256_eq_iff e

/-- **The codecs are exact.** -/
theorem codecs_exact (e : U256) (b : Bytes 32) (s : Signature) (c : Bytes 64) (argument : String)
    (buffer : Buffer) (f : Fp) :
    ElementCodec e b ∧ SignatureCodec s c ∧ BufferReaders argument buffer ∧ FieldConversion f e :=
  ⟨elementCodec e b, signatureCodec s c, bufferReaders argument buffer, fieldConversion f e⟩

/-- The first byte of each limb, and the last byte of all. -/
example : (U256.decode (.ofValue 32 (1 + 2 * 256 ^ 8 + 3 * 256 ^ 16 + 0x80 * 256 ^ 31))).limbs
    = [1, 2, 3, 0x8000000000000000] := by decide

end StarkWire
