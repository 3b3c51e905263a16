/-
# The bridge

Each operation takes wire buffers, checks them in the order of its arguments, takes private keys
and nonces modulo the order and everything else modulo the field prime, puts its requests to the
primitives and writes the answer as wire bytes.

For each operation `f`, `Procedure.f` says what is checked and what is asked, and `f` puts it to a
set of primitives.  Verification has no error: whatever goes wrong there reads as a refusal.
-/

import StarkWire.Bridge.Program
import StarkWire.Poseidon.WireState
import StarkWire.Scalar
import StarkWire.Signature

namespace StarkWire
namespace Bridge

/-- A 32-byte argument in the field. -/
def readElement (argument : String) (buffer : Buffer) : Checked Fp :=
  match StarkWire.readElement argument buffer with
  | .ok a => .ok (.ofU256 a)
  | .error e => .error ⟨.element, e⟩

/-- A 32-byte argument modulo the order. -/
def readScalar (argument : String) (buffer : Buffer) : Checked Fp :=
  match StarkWire.readElement argument buffer with
  | .ok a => .ok (.ofU256 (Scalar.reduce a))
  | .error e => .error ⟨.scalar, e⟩

/-- A signature with its two components as wire bytes. -/
def wireSignature (components : Fp × Fp) : Bytes 64 :=
  Signature.encode ⟨components.1.toU256, components.2.toU256⟩

namespace Procedure

/-- The hash of two elements. -/
def pedersen (first second : Buffer) : Checked (Program (Bytes 32)) := do
  let a ← readElement "first" first
  let b ← readElement "second" second
  return (Program.request (.pedersen a b)).map Fp.toWire

/-- A signature with a given nonce. -/
def sign (privateKey message k : Buffer) : Checked (Program (Bytes 64)) := do
  let key ← readScalar "private_key" privateKey
  let message ← readElement "message" message
  let k ← readScalar "k" k
  return (Program.request (.sign key message k)).map wireSignature

/-- A signature with a nonce that the primitives derive. -/
def signDeterministic (privateKey message : Buffer) (seed : Option Buffer) :
    Checked (Program (Bytes 64)) := do
  let key ← readScalar "private_key" privateKey
  let message ← readElement "message" message
  let seed ← match seed with
    | some seed => (readElement "seed" seed).map some
    | none => .ok none
  return (Program.request (.nonce message key seed)).bind fun k =>
    (Program.request (.sign key message k)).map wireSignature

/-- Whether a signature holds; here an error is still an error. -/
def verify (publicKey hash r w : Buffer) : Checked (Program Bool) := do
  let key ← readElement "public_key" publicKey
  let hash ← readElement "hash" hash
  let r ← readElement "r" r
  let w ← readElement "w" w
  return Program.request (.verify key hash r w)

/-- The abscissa of the public key. -/
def publicKey (privateKey : Buffer) : Checked (Program (Bytes 32)) := do
  let key ← readScalar "private_key" privateKey
  return (Program.request (.publicKey key)).map Fp.toWire

/-- The permutation of a state. -/
def hadesState (state : Poseidon.WireState) : Checked (Program Poseidon.WireState) :=
  .ok ((Program.request (.permute state.toState)).map Poseidon.State.toWire)

/-- The permutation of a grid. -/
def hades (grid : Grid) : Checked (Program Grid) :=
  match Poseidon.WireState.ofGrid grid with
  | .ok state => (hadesState state).map (Program.map Poseidon.WireState.toGrid)
  | .error e => .error ⟨.grid, e⟩

end Procedure

variable {σ : Type} (P : Primitives σ)

/-- The Pedersen hash of two elements. -/
def pedersen (first second : Buffer) : σ → Run σ (Except Error (Bytes 32)) :=
  (Procedure.pedersen first second).run P

/-- The signature of a message with nonce `k`. -/
def sign (privateKey message k : Buffer) : σ → Run σ (Except Error (Bytes 64)) :=
  (Procedure.sign privateKey message k).run P

/-- The signature of a message with a derived nonce. -/
def signDeterministic (privateKey message : Buffer) (seed : Option Buffer) :
    σ → Run σ (Except Error (Bytes 64)) :=
  (Procedure.signDeterministic privateKey message seed).run P

/-- Whether `(r, w)` signs the hash for the public key. -/
def verify (publicKey hash r w : Buffer) (s : σ) : Run σ Bool :=
  ((Procedure.verify publicKey hash r w).run P s).settle

/-- Whether a signature in one buffer signs the hash.  A buffer of the wrong length is a refusal.
-/
def verifySignature (publicKey hash signature : Buffer) (s : σ) : Run σ Bool :=
  match Signature.read signature with
  | .ok sig => verify P publicKey hash sig.r.encode.toList sig.w.encode.toList s
  | .error e => ⟨false, s, [], [.rejected ⟨.signature, e⟩]⟩

/-- The abscissa of the public key of a private key. -/
def publicKey (privateKey : Buffer) : σ → Run σ (Except Error (Bytes 32)) :=
  (Procedure.publicKey privateKey).run P

/-- The Poseidon permutation of a grid. -/
def hades (grid : Grid) : σ → Run σ (Except Error Grid) := (Procedure.hades grid).run P

/-- The Poseidon permutation of a state. -/
def hadesState (state : Poseidon.WireState) : σ → Run σ (Except Error Poseidon.WireState) :=
  (Procedure.hadesState state).run P

end Bridge
end StarkWire
