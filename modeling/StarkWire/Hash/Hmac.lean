/-
# HMAC with SHA-256

The key fills one block of 64 bytes, a longer one by its digest.  The message is hashed behind the
key masked with `0x36`, and that digest behind the key masked with `0x5c`.
-/

import StarkWire.Hash.Sha256

namespace StarkWire
namespace Hmac

/-- The key as one block. -/
def keyBlock (key : List UInt8) : List UInt8 :=
  let k := if key.length > 64 then Sha256.hash key else key
  k ++ List.replicate (64 - k.length) 0

/-- The authentication code of a message under a key. -/
def code (key message : List UInt8) : List UInt8 :=
  let block := keyBlock key
  Sha256.hash (block.map (· ^^^ 0x5c) ++ Sha256.hash (block.map (· ^^^ 0x36) ++ message))

end Hmac
end StarkWire
