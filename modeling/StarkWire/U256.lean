/-
# 256-bit values as four limbs

A value is four 64-bit limbs, least significant first: limb `j` weighs `2 ^ (64 j)`.  On the wire
it is 32 bytes, each limb in turn as eight little-endian bytes, so byte `i` weighs `256 ^ i`.  Any
four limbs are a value: nothing here is reduced modulo a prime.
-/

import StarkWire.Bytes

namespace StarkWire

/-- A 256-bit value, limb `l0` the least significant. -/
@[ext] structure U256 where
  l0 : UInt64
  l1 : UInt64
  l2 : UInt64
  l3 : UInt64
deriving DecidableEq

namespace U256

/-- Limbs in a value. -/
def limbCount : Nat := 4

/-- Bytes in a limb. -/
def limbSize : Nat := 8

/-- Bytes of a value on the wire. -/
def size : Nat := 32

/-- The value zero. -/
def zero : U256 := ⟨0, 0, 0, 0⟩

/-- A one-limb value. -/
def ofWord (w : UInt64) : U256 := ⟨w, 0, 0, 0⟩

/-- The limbs, least significant first. -/
def limbs (a : U256) : List UInt64 := [a.l0, a.l1, a.l2, a.l3]

/-- The value of exactly four limbs. -/
def ofLimbs? : List UInt64 → Option U256
  | [a, b, c, d] => some ⟨a, b, c, d⟩
  | _ => none

/-- `2 ^ 64`, by which each limb outweighs the one before it. -/
def limbBase : Nat := 0x10000000000000000

/-- `2 ^ 256`, which all values stay below. -/
def bound : Nat :=
  0x10000000000000000000000000000000000000000000000000000000000000000

/-- The number that the limbs denote. -/
def toNat (a : U256) : Nat :=
  a.l0.toNat + limbBase * (a.l1.toNat + limbBase * (a.l2.toNat + limbBase * a.l3.toNat))

/-- A number modulo `2 ^ 256`. -/
def ofNat (n : Nat) : U256 :=
  ⟨.ofNat n, .ofNat (n / limbBase), .ofNat (n / limbBase / limbBase),
    .ofNat (n / limbBase / limbBase / limbBase)⟩

/-- The limb whose eight little-endian bytes start at byte `8 * j`. -/
def limbAt (b : List UInt8) (j : Nat) : UInt64 :=
  .ofNat (leValue ((b.drop (limbSize * j)).take limbSize))

/-- The value of 32 wire bytes. -/
def decode (b : Bytes 32) : U256 :=
  ⟨limbAt b.toList 0, limbAt b.toList 1, limbAt b.toList 2, limbAt b.toList 3⟩

/-- The eight wire bytes of a limb. -/
def limbBytes (w : UInt64) : List UInt8 := leBytes limbSize w.toNat

/-- The 32 wire bytes of a value. -/
def encode (a : U256) : Bytes 32 :=
  ⟨limbBytes a.l0 ++ limbBytes a.l1 ++ limbBytes a.l2 ++ limbBytes a.l3,
    by simp [limbBytes, limbSize]⟩

/-- A 32-byte buffer with each of its eight-byte pieces overwritten by a limb. -/
def encodeInto (a : U256) (buffer : Bytes 32) : Bytes 32 :=
  ⟨Buffer.splice (Buffer.splice (Buffer.splice (Buffer.splice buffer.toList
      0 (limbBytes a.l0)) 8 (limbBytes a.l1)) 16 (limbBytes a.l2)) 24 (limbBytes a.l3),
    by simp [Buffer.splice, limbBytes, limbSize, buffer.length_toList]⟩

/-- Four limbs denote a number below `2 ^ 256`. -/
theorem toNat_lt (a : U256) : a.toNat < bound := by
  have h0 := a.l0.toNat_lt
  have h1 := a.l1.toNat_lt
  have h2 := a.l2.toNat_lt
  have h3 := a.l3.toNat_lt
  simp only [toNat, limbBase, bound]
  omega

/-- A number is taken modulo `2 ^ 256` when it is made a value. -/
theorem toNat_ofNat (n : Nat) : (ofNat n).toNat = n % bound := by
  simp only [ofNat, toNat, limbBase, bound, UInt64.toNat_ofNat']
  omega

/-- A value is told by the number that its limbs denote. -/
theorem toNat_inj {a b : U256} (h : a.toNat = b.toNat) : a = b := by
  have a0 := a.l0.toNat_lt
  have a1 := a.l1.toNat_lt
  have a2 := a.l2.toNat_lt
  have b0 := b.l0.toNat_lt
  have b1 := b.l1.toNat_lt
  have b2 := b.l2.toNat_lt
  simp only [toNat, limbBase] at h
  ext1 <;> apply UInt64.toNat.inj <;> omega

/-- The limbs of the number that a value denotes are its own. -/
theorem ofNat_toNat (a : U256) : ofNat a.toNat = a :=
  toNat_inj (by rw [toNat_ofNat, Nat.mod_eq_of_lt a.toNat_lt])

end U256

end StarkWire
