/-
# Four-limb arithmetic

Shifting, comparing and subtracting work limb by limb on 64-bit words:

| operation | rule for limb `j` |
| --- | --- |
| `shiftLeft` | its own bits moved up, and the bits that limb `j - 1` pushed out |
| `ge` | the highest limb in which the two values differ decides |
| `sub` | difference modulo `2 ^ 64`, less the borrow of limb `j - 1` |
-/

import StarkWire.U256

namespace StarkWire
namespace U256

/-- `a * 2 ^ s` modulo `2 ^ 256`, for a shift `s` below 64. -/
def shiftLeft (a : U256) (s : UInt64) : U256 :=
  if s = 0 then a
  else
    ⟨a.l0 <<< s,
     a.l1 <<< s ||| a.l0 >>> (64 - s),
     a.l2 <<< s ||| a.l1 >>> (64 - s),
     a.l3 <<< s ||| a.l2 >>> (64 - s)⟩

/-- Whether `a` is at least `b`. -/
def ge (a b : U256) : Bool :=
  if a.l3 ≠ b.l3 then b.l3 < a.l3
  else if a.l2 ≠ b.l2 then b.l2 < a.l2
  else if a.l1 ≠ b.l1 then b.l1 < a.l1
  else if a.l0 ≠ b.l0 then b.l0 < a.l0
  else true

/-- The difference in one limb.  A borrow goes out when the limbs themselves underflow
(`fromLimbs`) or when taking the incoming borrow does (`fromBorrow`). -/
structure LimbDifference where
  value : UInt64
  fromLimbs : Bool
  fromBorrow : Bool

/-- The borrow that the next limb has to pay. -/
def LimbDifference.borrow (d : LimbDifference) : Bool := d.fromLimbs || d.fromBorrow

/-- `a - b` less the incoming borrow, in one limb. -/
def subLimb (a b : UInt64) (borrow : Bool) : LimbDifference :=
  ⟨a - b - borrow.toUInt64, a < b, a - b < borrow.toUInt64⟩

/-- `a - b` modulo `2 ^ 256`. -/
def sub (a b : U256) : U256 :=
  let d0 := subLimb a.l0 b.l0 false
  let d1 := subLimb a.l1 b.l1 d0.borrow
  let d2 := subLimb a.l2 b.l2 d1.borrow
  let d3 := subLimb a.l3 b.l3 d2.borrow
  ⟨d0.value, d1.value, d2.value, d3.value⟩

end U256
end StarkWire
