/-
# The prime field

The curve lies over the integers modulo `p = 2 ^ 251 + 17 * 2 ^ 192 + 1`.  An `Fp` is the least
nonnegative representative; a 256-bit value enters the field by its remainder and leaves it as the
representative, so a value below `p` comes back as it was.
-/

import StarkWire.U256
import StarkWire.Modular

namespace StarkWire

/-- The prime `p`. -/
def Fp.prime : Nat := 0x800000000000011000000000000000000000000000000000000000000000001

/-- An element of the prime field. -/
@[ext] structure Fp where
  val : Nat
  isLt : val < Fp.prime
deriving DecidableEq

namespace Fp

/-- The field is not empty. -/
theorem prime_pos : 0 < prime := by decide

/-- The residue of a number. -/
def ofNat (n : Nat) : Fp := ⟨n % prime, Nat.mod_lt n prime_pos⟩

instance (n : Nat) : OfNat Fp n := ⟨ofNat n⟩

instance : Add Fp := ⟨fun a b => ofNat (a.val + b.val)⟩
instance : Sub Fp := ⟨fun a b => ofNat (a.val + (prime - b.val))⟩
instance : Neg Fp := ⟨fun a => ofNat (prime - a.val)⟩
instance : Mul Fp := ⟨fun a b => ofNat (a.val * b.val)⟩

/-- The inverse; zero for zero. -/
def inv (a : Fp) : Fp := ofNat ((Modular.inverse? a.val prime).getD 0)

instance : Inv Fp := ⟨inv⟩
instance : Div Fp := ⟨fun a b => a * b.inv⟩

/-- Powers by repeated squaring. -/
def pow (a : Fp) (e : Nat) : Fp := ofNat (Modular.pow prime a.val e)

/-- The residue of a 256-bit value. -/
def ofU256 (a : U256) : Fp := ofNat a.toNat

/-- The limbs of the representative. -/
def toU256 (a : Fp) : U256 := U256.ofNat a.val

/-- The 32 wire bytes of the representative. -/
def toWire (a : Fp) : Bytes 32 := a.toU256.encode

/-- A number is taken modulo the prime when it is made an element. -/
theorem val_ofNat (n : Nat) : (ofNat n).val = n % prime := rfl

/-- An element is made of its representative. -/
theorem ofNat_val (a : Fp) : ofNat a.val = a := Fp.ext (Nat.mod_eq_of_lt a.isLt)

/-- An element denotes its representative as a 256-bit value. -/
theorem toNat_toU256 (a : Fp) : a.toU256.toNat = a.val := by
  have h := a.isLt
  have hp : prime < U256.bound := by decide
  rw [toU256, U256.toNat_ofNat, Nat.mod_eq_of_lt (by omega)]

/-- An element comes back from a 256-bit value as it was. -/
@[simp] theorem ofU256_toU256 (a : Fp) : ofU256 a.toU256 = a := by
  rw [ofU256, toNat_toU256, ofNat_val]

end Fp
end StarkWire
