/-
# Deterministic nonces

The nonce of a key and a message comes from a generator built on HMAC, whose state is a key `K`
and a block `V`.  It is seeded with the 32 big-endian bytes of the key, the same of the message,
and the seed's big-endian bytes without leading zeros.  Each block, shifted right by four bits, is
a candidate; the first that is nonzero and below the order is the nonce.
-/

import StarkWire.Field
import StarkWire.Scalar
import StarkWire.Hash.Hmac

namespace StarkWire
namespace Nonce

/-- The generator's state. -/
structure State where
  key : List UInt8
  block : List UInt8

/-- The state with the block moved on. -/
def State.advance (s : State) : State := ⟨s.key, Hmac.code s.key s.block⟩

/-- The state with new data mixed into its key. -/
def State.rekey (s : State) (data : List UInt8) : State :=
  State.advance ⟨Hmac.code s.key (s.block ++ data), s.block⟩

/-- The state before any data. -/
def initial : State := ⟨List.replicate 32 0, List.replicate 32 1⟩

/-- A generator seeded with data. -/
def seeded (data : List UInt8) : State :=
  (initial.rekey (0 :: data)).rekey (1 :: data)

/-- The big-endian bytes of a number without leading zeros. -/
def shortBytes (n : Nat) : List UInt8 := (beBytes 32 n).dropWhile (· = 0)

/-- The candidate in a block: its top 252 bits. -/
def candidate (block : List UInt8) : Nat := beValue block / 16

/-- The first acceptable candidate.  The generator goes on until there is one; here it is given up
after `tries` candidates, and the last block is taken into the range `1 … n - 1`.  That value is not
one of the generator's, and all that is said about it is its range (`search_range`).  Half of all
candidates are acceptable. -/
def search : (tries : Nat) → State → Nat
  | 0, s => candidate s.block % (Scalar.order - 1) + 1
  | tries + 1, s =>
    let k := candidate s.advance.block
    if k ≠ 0 ∧ k < Scalar.order then k else search tries (s.advance.rekey [0])

/-- The nonce of a message under a key, with an optional seed. -/
def generate (message key : Fp) (seed : Option Fp) : Fp :=
  let data := beBytes 32 key.val ++ beBytes 32 message.val ++ shortBytes ((seed.map Fp.val).getD 0)
  .ofNat (search 512 (seeded data))

/-- **A nonce is nonzero and below the order,** whether a candidate was found or the search was given
up. -/
theorem search_range (tries : Nat) (s : State) :
    0 < search tries s ∧ search tries s < Scalar.order := by
  induction tries generalizing s with
  | zero =>
    have h : candidate s.block % (Scalar.order - 1) < Scalar.order - 1 :=
      Nat.mod_lt _ (by decide)
    simp only [search]
    omega
  | succ tries ih =>
    simp only [search]
    split
    · omega
    · exact ih _

end Nonce
end StarkWire
