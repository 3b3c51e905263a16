/-
# Square roots in the field

`p - 1 = 2 ^ 192 * q` with `q = 2 ^ 59 + 17` odd, and 3 is not a square.  To find a root of `a`,
start with `x = a ^ ((q + 1) / 2)`, `b = a ^ q` and `c = 3 ^ q`, and keep

* `x ^ 2 = a * b`,
* `b ^ (2 ^ k) = 1`, which holds for `k = 191` when `a` is a nonzero square,
* `c ^ (2 ^ k) = -1`,

while `k` falls to zero; then `b = 1` and `x` is a root.  The last step squares `x`, so that a
value without a root is found out there.
-/

import StarkWire.Field

namespace StarkWire
namespace Fp

/-- The odd factor `q` of `p - 1`. -/
def oddPart : Nat := 0x800000000000011

/-- `b ^ (2 ^ k)`. -/
def squareTimes (b : Fp) : Nat → Fp
  | 0 => b
  | k + 1 => squareTimes (b * b) k

/-- The candidate root once `k` has fallen to zero. -/
def rootLoop : (k : Nat) → (x b c : Fp) → Fp
  | 0, x, _, _ => x
  | k + 1, x, b, c =>
    let c2 := c * c
    if squareTimes b k = -1 then rootLoop k (x * c) (b * c2) c2 else rootLoop k x b c2

/-- A square root, if there is one. -/
def sqrt? (a : Fp) : Option Fp :=
  let x := rootLoop 191 (a.pow ((oddPart + 1) / 2)) (a.pow oddPart) (pow 3 oddPart)
  if x * x = a then some x else none

/-- Of a value and its negative, the one with the smaller representative. -/
def smaller (x : Fp) : Fp := if x.val ≤ (-x).val then x else -x

end Fp
end StarkWire
