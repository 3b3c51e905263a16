/-
# The production primitives

The curve operations themselves, as a set of primitives without state.  Signatures are in the
wire's form `(r, w)` with `w` the inverse of `s`.  Scalars that would lead straight to the point
at infinity are refused first: a zero nonce in signing, a zero key in deriving the public key.
-/

import StarkWire.Curve.Ecdsa
import StarkWire.Curve.Nonce
import StarkWire.Curve.Pedersen

namespace StarkWire

namespace Scalar

/-- The inverse modulo the order, as a field element. -/
def inverse? (a : Fp) : Option Fp := (Modular.inverse? a.val order).map Fp.ofNat

/-- The inverse modulo the order of a 256-bit value taken into the field: it maps `s` to `w` and
back. -/
def invertModOrder (a : U256) : Option U256 := (inverse? (.ofU256 a)).map Fp.toU256

end Scalar

namespace Production

/-- A signature `(r, w)`. -/
def sign (key message k : Fp) : Reply (Fp × Fp) :=
  if k = 0 then Ecdsa.signFault "zero nonce"
  else
    (Ecdsa.sign key message k).bind fun (r, s) =>
      match Scalar.inverse? s with
      | some w => .value (r, w)
      | none => Ecdsa.signFault "s has no inverse"

/-- Whether `(r, w)` signs the message. -/
def verify (key message r w : Fp) : Reply Bool :=
  if !Ecdsa.inRange w.val then .value false
  else
    match Scalar.inverse? w with
    | none => .value false
    | some s => Ecdsa.verify key message r s

/-- The abscissa of the public key. -/
def publicKey (key : Fp) : Reply Fp :=
  if key = 0 then .fault ⟨"get_public_key", "zero private key"⟩
  else Ecdsa.mulGenerator key.val

/-- The reply to each request. -/
def reply : (q : Request) → Reply q.Answer
  | .pedersen a b => .ofOption (Pedersen.hash? a b)
  | .sign key message k => sign key message k
  | .verify key message r w => verify key message r w
  | .publicKey key => publicKey key
  | .permute state => .value (Poseidon.permute state)
  | .nonce message key seed => .value (Nonce.generate message key seed)

/-- The stateless set of primitives. -/
def primitives : Primitives Unit := ⟨fun q s => (reply q, s)⟩

end Production
end StarkWire
