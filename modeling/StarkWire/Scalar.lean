/-
# Scalars

Private keys and nonces are numbers modulo the order `n` of the curve's generator.  They arrive as
any 256-bit value and are reduced before use.

`16 n` still fits in 256 bits and `2 ^ 256 < 32 n`, so five conditional subtractions, of `16 n`,
`8 n`, `4 n`, `2 n` and `n`, leave the remainder.
-/

import StarkWire.U256.Arith

namespace StarkWire
namespace Scalar

/-- The order `n` of the generator. -/
def order : Nat := 0x0800000000000010ffffffffffffffffb781126dcae7b2321e66a241adc64d2f

/-- The order in limbs. -/
def orderLimbs : U256 :=
  ⟨0x1e66a241adc64d2f, 0xb781126dcae7b232, 0xffffffffffffffff, 0x0800000000000010⟩

/-- The limbs that are subtracted denote the order of the curve. -/
theorem toNat_orderLimbs : orderLimbs.toNat = order := by decide

/-- Takes `n * 2 ^ s` off a value that has it to give. -/
def reduceStep (a : U256) (s : UInt64) : U256 :=
  let multiple := orderLimbs.shiftLeft s
  if a.ge multiple then a.sub multiple else a

/-- A value modulo the order. -/
def reduce (a : U256) : U256 := [4, 3, 2, 1, 0].foldl reduceStep a

/-- Whether a value is a multiple of the order. -/
def isZero (a : U256) : Bool := reduce a = U256.zero

end Scalar
end StarkWire
