/-
# Reading arguments

A buffer of the right length is read as the number its bytes denote: taken modulo the field prime
as an element (`readElement_toList`), modulo the order as a scalar (`readScalar_toList`).  Two
buffers whose values agree in the modulus of their role are read as the same element.
-/

import StarkWire.Bridge.Chain
import StarkWire.Proofs.Scalar
import StarkWire.Proofs.U256.Wire

namespace StarkWire

/-- Bytes of the right length pass the check of their buffer. -/
@[simp] theorem Bytes.ofBuffer?_toList {n : ℕ} (b : Bytes n) :
    Bytes.ofBuffer? n b.toList = some b := by
  simp [Bytes.ofBuffer?, b.length_toList]

/-- An argument of the right length is taken as it is. -/
@[simp] theorem checkLength_toList {n : ℕ} (argument : String) (b : Bytes n) :
    checkLength argument n b.toList = .ok b := by
  simp [checkLength]

/-- An element is told by a number modulo the prime. -/
theorem Fp.ofNat_eq_of_modEq {a b : ℕ} (h : a ≡ b [MOD prime]) : ofNat a = ofNat b := Fp.ext h

/-- Thirty-two bytes are read as the value that they denote. -/
theorem readElement_toList (argument : String) (b : Bytes 32) :
    readElement argument b.toList = .ok (U256.decode b) :=
  congrArg (Except.map U256.decode) (checkLength_toList argument b)

/-- Sixty-four bytes are read as a signature. -/
theorem Signature.read_toList (b : Bytes 64) :
    Signature.read b.toList = .ok (Signature.decode b) :=
  congrArg (Except.map Signature.decode) (checkLength_toList "signature" b)

namespace Bridge

variable (argument : String)

/-- The element that 32 bytes stand for. -/
def element (b : Bytes 32) : Fp := .ofNat b.value

/-- The scalar that 32 bytes stand for. -/
def scalar (b : Bytes 32) : Fp := .ofNat (b.value % Scalar.order)

/-- The first half of a signature. -/
def rBytes (sig : Bytes 64) : Bytes 32 := Bytes.front 32 (n := 32) sig

/-- The second half of a signature. -/
def wBytes (sig : Bytes 64) : Bytes 32 := Bytes.back 32 (n := 32) sig

/-- The scalar of 32 bytes is their value modulo the order. -/
theorem val_scalar (b : Bytes 32) : (scalar b).val = b.value % Scalar.order :=
  Nat.mod_eq_of_lt ((Nat.mod_lt _ Scalar.order_pos).trans Scalar.order_lt_prime)

/-- An answer is read as the element that it was made of. -/
theorem element_toWire (a : Fp) : element a.toWire = a := by
  rw [element, Fp.value_toWire, Fp.ofNat_val]

/-- The element of 32 bytes depends on their value modulo the prime alone. -/
theorem element_congr {a b : Bytes 32} (h : a.value ≡ b.value [MOD Fp.prime]) :
    element a = element b := Fp.ofNat_eq_of_modEq h

/-- The scalar of 32 bytes depends on their value modulo the order alone. -/
theorem scalar_congr {a b : Bytes 32} (h : a.value ≡ b.value [MOD Scalar.order]) :
    scalar a = scalar b := congrArg Fp.ofNat h

/-- An element of 32 bytes is accepted and taken modulo the prime. -/
@[simp] theorem readElement_toList (b : Bytes 32) :
    readElement argument b.toList = .ok (element b) := by
  simp [readElement, StarkWire.readElement_toList, Fp.ofU256, U256.toNat_decode, element]

/-- A scalar of 32 bytes is accepted and taken modulo the order. -/
@[simp] theorem readScalar_toList (b : Bytes 32) :
    readScalar argument b.toList = .ok (scalar b) := by
  have h : Fp.ofU256 (Scalar.reduce (U256.decode b)) = scalar b := by
    apply Fp.ext
    rw [Scalar.val_ofU256_reduce, U256.toNat_decode, val_scalar]
  simp [readScalar, StarkWire.readElement_toList, h]

/-- A list of 32-byte elements is accepted, in its order. -/
@[simp] theorem readElements_toList (elements : List (Bytes 32)) :
    readElements (elements.map Bytes.toList) = .ok (elements.map element) := by
  induction elements with
  | nil => rfl
  | cons b rest ih =>
    rw [List.map_cons, readElements, readElement_toList, ih]
    rfl

/-! ### The operations on arguments of the right length -/

namespace Procedure

/-- On 32-byte arguments, hashing a pair is one request for a hash. -/
theorem pedersen_toList (a b : Bytes 32) :
    pedersen a.toList b.toList
      = .ok ((Program.request (.pedersen (element a) (element b))).map Fp.toWire) := by
  simp [pedersen, bind, Except.bind, pure, Except.pure]

/-- On 32-byte arguments, signing is one request for a signature, with key and nonce as scalars. -/
theorem sign_toList (d m k : Bytes 32) :
    sign d.toList m.toList k.toList
      = .ok ((Program.request (.sign (scalar d) (element m) (scalar k))).map wireSignature) := by
  simp [sign, bind, Except.bind, pure, Except.pure]

/-- Deterministic signing requests a nonce and then a signature with it. -/
theorem signDeterministic_toList (d m : Bytes 32) (seed : Option (Bytes 32)) :
    signDeterministic d.toList m.toList (seed.map Bytes.toList)
      = .ok ((Program.request (.nonce (element m) (scalar d) (seed.map element))).bind fun k =>
          (Program.request (.sign (scalar d) (element m) k)).map wireSignature) := by
  cases seed <;> simp [signDeterministic, bind, Except.bind, pure, Except.pure, Except.map]

/-- On 32-byte arguments, verifying is one request for a verdict. -/
theorem verify_toList (q h r w : Bytes 32) :
    verify q.toList h.toList r.toList w.toList
      = .ok (Program.request (.verify (element q) (element h) (element r) (element w))) := by
  simp [verify, bind, Except.bind, pure, Except.pure]

/-- On a 32-byte key, deriving the public key is one request for it. -/
theorem publicKey_toList (d : Bytes 32) :
    publicKey d.toList = .ok ((Program.request (.publicKey (scalar d))).map Fp.toWire) := by
  simp [publicKey, bind, Except.bind, pure, Except.pure]

/-- On 32-byte elements, hashing a list is a chain of hashes, closed with its length. -/
theorem pedersenOnElements_toList (elements : List (Bytes 32)) :
    pedersenOnElements (elements.map Bytes.toList)
      = .ok ((terminatedChain (elements.map element)).map Fp.toWire) := by
  simp [pedersenOnElements, bind, Except.bind, pure, Except.pure]

/-- The Poseidon hash of a pair permutes the two elements beside the tag 2. -/
theorem poseidonHash_toList (a b : Bytes 32) :
    poseidonHash a.toList b.toList
      = .ok ((Program.request (.permute ⟨element a, element b, 2⟩)).map squeeze) := by
  simp [poseidonHash, bind, Except.bind, pure, Except.pure]

/-- The Poseidon hash of one element permutes it beside zero and the tag 1. -/
theorem poseidonHashSingle_toList (a : Bytes 32) :
    poseidonHashSingle a.toList
      = .ok ((Program.request (.permute ⟨element a, 0, 1⟩)).map squeeze) := by
  simp [poseidonHashSingle, bind, Except.bind, pure, Except.pure]

/-- The Poseidon hash of a list squeezes a sponge that starts from zero. -/
theorem poseidonHashMany_toList (elements : List (Bytes 32)) :
    poseidonHashMany (elements.map Bytes.toList)
      = .ok ((sponge ⟨0, 0, 0⟩ (elements.map element)).map squeeze) := by
  simp [poseidonHashMany, bind, Except.bind, pure, Except.pure]

end Procedure

/-- A signature in one buffer is verified as its two halves. -/
theorem verifySignature_toList {σ : Type} (P : Primitives σ) (q h : Buffer) (sig : Bytes 64)
    (s : σ) :
    verifySignature P q h sig.toList s
      = verify P q h (rBytes sig).toList (wBytes sig).toList s := by
  rw [verifySignature, Signature.read_toList]
  simp only [Signature.decode, U256.encode_decode, rBytes, wBytes]

end Bridge
end StarkWire
