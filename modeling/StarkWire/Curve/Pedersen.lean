/-
# The Pedersen hash

Each of the two elements is split into its low 248 bits and the rest.  The hash is the abscissa of
a fixed point plus the four parts as multiples of four more fixed points.
-/

import StarkWire.Curve

namespace StarkWire
namespace Pedersen

/-- The point that every sum starts from. -/
def shift : Point :=
  .affine (.ofNat 0x049ee3eba8c1600700ee1b87eb599f16716b0b1022947733551fde4050ca6804)
    (.ofNat 0x03ca0cfe4b3bc6ddf346d49d06ea0ed34e621062c0e056c1d0405d266e10268a)

/-- The point of the first element's low part. -/
def firstLow : Point :=
  .affine (.ofNat 0x0234287dcbaffe7f969c748655fca9e58fa8120b6d56eb0c1080d17957ebe47b)
    (.ofNat 0x03b056f100f96fb21e889527d41f4e39940135dd7a6c94cc6ed0268ee89e5615)

/-- The point of the first element's high part. -/
def firstHigh : Point :=
  .affine (.ofNat 0x04fa56f376c83db33f9dab2656558f3399099ec1de5e3018b7a6932dba8aa378)
    (.ofNat 0x03fa0984c931c9e38113e0c0e47e4401562761f92a7a23b45168f4e80ff5b54d)

/-- The point of the second element's low part. -/
def secondLow : Point :=
  .affine (.ofNat 0x04ba4cc166be8dec764910f75b45f74b40c690c74709e90f3aa372f0bd2d6997)
    (.ofNat 0x0040301cf5c1751f4b971e46c4ede85fcac5c59a5ce5ae7c48151f27b24b219c)

/-- The point of the second element's high part. -/
def secondHigh : Point :=
  .affine (.ofNat 0x054302dcb0e6cc1c6e44cca8f61a63bb2ca65048d53fb325d36ff12c49a58202)
    (.ofNat 0x01b77b3e37d13504b348046268d8ae25ce98ad783c25561a879dcc77e99c2426)

/-- `2 ^ 248`, what the low part of an element stays below. -/
def lowBound : Nat := 0x100000000000000000000000000000000000000000000000000000000000000

/-- Both parts of an element, as multiples of their points. -/
def parts (low high : Point) (a : Fp) : Point :=
  low.mul (a.val % lowBound) + high.mul (a.val / lowBound)

/-- The point whose abscissa is the hash. -/
def sum (a b : Fp) : Point := shift + parts firstLow firstHigh a + parts secondLow secondHigh b

/-- The hash of two elements; there is none where the sum is infinity. -/
def hash? (a b : Fp) : Option Fp := (sum a b).x?

end Pedersen
end StarkWire
