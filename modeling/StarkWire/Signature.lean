/-
# Signatures

A signature is a pair `(r, w)`, where `w` is the inverse modulo the order of the usual component
`s`.  On the wire it is 64 bytes: those of `r`, then those of `w`.
-/

import StarkWire.Shape

namespace StarkWire

/-- A signature as it travels. -/
@[ext] structure Signature where
  r : U256
  w : U256
deriving DecidableEq

namespace Signature

/-- Bytes of a signature on the wire. -/
def size : Nat := 64

/-- The bytes of `r`, then those of `w`. -/
def encode (s : Signature) : Bytes 64 := s.r.encode.append s.w.encode

/-- The pair in 64 wire bytes. -/
def decode (b : Bytes 64) : Signature :=
  ⟨U256.decode (Bytes.front 32 (n := 32) b), U256.decode (Bytes.back 32 (n := 32) b)⟩

/-- The pair in a buffer, which must be 64 bytes long. -/
def read (buffer : Buffer) : Except SizeError Signature :=
  (checkLength "signature" size buffer).map decode

end Signature
end StarkWire
