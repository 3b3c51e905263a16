/-
# Primitives

Whoever computes the curve operations is asked by a `Request` and gives a `Reply`: a value, a
fault that it reports, or a panic.  A set of primitives may keep a state between requests, so a
reply also says what the state has become.
-/

import StarkWire.Poseidon

namespace StarkWire

/-- A failure that a primitive reports. -/
structure Fault where
  operation : String
  detail : String
deriving DecidableEq

/-- The text of a fault. -/
def Fault.message (f : Fault) : String := f.operation ++ ": " ++ f.detail

/-- How a request ends. -/
inductive Reply (α : Type) where
  | value (a : α)
  | fault (f : Fault)
  | panic

namespace Reply

variable {α β : Type}

/-- A reply with its value changed. -/
def map (f : α → β) : Reply α → Reply β
  | value a => value (f a)
  | fault e => fault e
  | panic => panic

/-- The value of an option; its absence is a panic. -/
def ofOption : Option α → Reply α
  | some a => value a
  | none => panic

/-- The reply to a second request made with the value of the first. -/
def bind (r : Reply α) (f : α → Reply β) : Reply β :=
  match r with
  | value a => f a
  | fault e => fault e
  | panic => panic

end Reply

/-- One request to the primitives.  Keys and nonces are scalars already below the order. -/
inductive Request where
  /-- The Pedersen hash of two elements. -/
  | pedersen (a b : Fp)
  /-- A signature `(r, w)` of a message. -/
  | sign (key message nonce : Fp)
  /-- Whether `(r, w)` signs a message for the public key with this abscissa. -/
  | verify (publicKey message r w : Fp)
  /-- The abscissa of the public key. -/
  | publicKey (key : Fp)
  /-- The permutation of a state. -/
  | permute (state : Poseidon.State)
  /-- A nonce derived from message, key and seed. -/
  | nonce (message key : Fp) (seed : Option Fp)
deriving DecidableEq

namespace Request

/-- What a request asks for. -/
@[reducible] def Answer : Request → Type
  | pedersen _ _ => Fp
  | sign _ _ _ => Fp × Fp
  | verify _ _ _ _ => Bool
  | publicKey _ => Fp
  | permute _ => Poseidon.State
  | nonce _ _ _ => Fp

/-- The operation that a request belongs to. -/
def operation : Request → String
  | pedersen _ _ => "pedersen"
  | sign _ _ _ => "sign"
  | verify _ _ _ _ => "verify"
  | publicKey _ => "get_public_key"
  | permute _ => "hades"
  | nonce _ _ _ => "generate_k"

/-- Whether the request is one to which a fault can be reported; the others have a value or panic.
-/
def canFault : Request → Bool
  | sign _ _ _ => true
  | verify _ _ _ _ => true
  | publicKey _ => true
  | _ => false

/-- The name under which a request is recorded. -/
def name : Request → String
  | pedersen _ _ => "pedersen_hash"
  | sign _ _ _ => "ecdsa_sign"
  | verify _ _ _ _ => "ecdsa_verify"
  | publicKey _ => "public_key"
  | permute _ => "poseidon_permute"
  | nonce _ _ _ => "generate_k"

/-- The arguments of a request, in order. -/
def arguments : Request → List Fp
  | pedersen a b => [a, b]
  | sign key message k => [key, message, k]
  | verify key message r w => [key, message, r, w]
  | publicKey key => [key]
  | permute state => [state.s0, state.s1, state.s2]
  | nonce message key seed => [message, key] ++ seed.toList

end Request

/-- A set of primitives with a state of type `σ`. -/
structure Primitives (σ : Type) where
  reply : (q : Request) → σ → Reply q.Answer × σ

end StarkWire
