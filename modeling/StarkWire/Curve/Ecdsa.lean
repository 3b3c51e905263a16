/-
# ECDSA over the curve

`G` is the generator and `n` its order.  Messages and both components of a conventional signature
`(r, s)` stay below `2 ^ 251`, and so does the inverse `w` of `s`.

* Signing `m` with key `d` and nonce `k`: `r` is the abscissa of `k G` and `s = (r d + m) / k`
  modulo `n`.
* Verifying for a public key known by its abscissa only: `Q` is the point over it with the smaller
  ordinate, and `r` must be the abscissa of `z w G + r w Q` or of `z w G - r w Q`.

Where a multiple of the generator or one of the two sums is infinity there is no abscissa, and the
computation panics.
-/

import StarkWire.Curve
import StarkWire.Scalar
import StarkWire.Primitive

namespace StarkWire
namespace Ecdsa

/-- `2 ^ 251`, which signatures and messages stay below. -/
def bound : Nat := 0x800000000000000000000000000000000000000000000000000000000000000

/-- Nonzero and below the bound. -/
def inRange (a : Nat) : Bool := a ≠ 0 ∧ a < bound

/-- A fault in signing. -/
def signFault {α : Type} (detail : String) : Reply α := .fault ⟨"sign", detail⟩

/-- A fault in verifying. -/
def verifyFault {α : Type} (detail : String) : Reply α := .fault ⟨"verify", detail⟩

/-- The abscissa of `k` times the generator. -/
def mulGenerator (k : Nat) : Reply Fp := .ofOption (Point.generator.mul k).x?

/-- The component `s` of a signature. -/
def component (r d m kInv : Nat) : Nat := (r * d + m) * kInv % Scalar.order

/-- The conventional signature `(r, s)`. -/
def sign (d m k : Fp) : Reply (Fp × Fp) :=
  if m.val ≥ bound then signFault "Invalid message hash"
  else if k = 0 then signFault "Invalid k"
  else
    (mulGenerator k.val).bind fun r =>
      if !inRange r.val then signFault "Invalid k"
      else
        (Reply.ofOption (Modular.inverse? k.val Scalar.order)).bind fun kInv =>
          let s := component r.val d.val m.val kInv
          if !inRange s then signFault "Invalid k" else .value (r, .ofNat s)

/-- Whether `r` is the abscissa of one of the two sums; the second is formed only if needed. -/
def matchesEither (r : Fp) (a c : Point) : Reply Bool :=
  (Reply.ofOption (a + c).x?).bind fun x =>
    if x = r then .value true
    else (Reply.ofOption (a - c).x?).map fun x => x = r

/-- Whether `(r, s)` signs `z` for the public key with abscissa `q`. -/
def verify (q z r s : Fp) : Reply Bool :=
  if z.val ≥ bound then verifyFault "Invalid message hash"
  else if !inRange r.val then verifyFault "Invalid r"
  else if !inRange s.val then verifyFault "Invalid s"
  else
    match Point.lift? q with
    | none => verifyFault "Invalid public key"
    | some point =>
      match Modular.inverse? s.val Scalar.order with
      | none => verifyFault "Invalid s"
      | some w =>
        if !inRange w then verifyFault "Invalid s"
        else
          matchesEither r (Point.generator.mul (z.val * w % Scalar.order))
            (point.mul (r.val * w % Scalar.order))

end Ecdsa
end StarkWire
