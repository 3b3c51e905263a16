/-
# Operations as data

An `Operation` names one operation of the bridge with its arguments, and `Operation.run` carries
it out.  A list of operations runs on one set of primitives, each operation from the state that
the one before it left.
-/

import StarkWire.Bridge.Chain

namespace StarkWire
namespace Bridge

/-- An operation with its arguments. -/
inductive Operation where
  | pedersen (first second : Buffer)
  | sign (privateKey message k : Buffer)
  | signDeterministic (privateKey message : Buffer) (seed : Option Buffer)
  | verify (publicKey hash r w : Buffer)
  | verifySignature (publicKey hash signature : Buffer)
  | publicKey (privateKey : Buffer)
  | hades (grid : Grid)
  | hadesState (state : Poseidon.WireState)
  | pedersenOnElements (elements : List Buffer)
  | poseidonHash (first second : Buffer)
  | poseidonHashSingle (value : Buffer)
  | poseidonHashMany (elements : List Buffer)
deriving DecidableEq

/-- What an operation answers. -/
inductive Answer where
  /-- Wire bytes. -/
  | bytes (value : Buffer)
  /-- A verdict. -/
  | verdict (valid : Bool)
  /-- A grid. -/
  | grid (rows : Grid)
deriving DecidableEq

namespace Operation

variable {σ : Type} (P : Primitives σ)

/-- Bytes of known length as an answer. -/
def bytesAnswer {n : Nat} (answer : Except Error (Bytes n)) : Except Error Answer :=
  answer.map fun bytes => .bytes bytes.toList

/-- The operation carried out. -/
def run : Operation → σ → Run σ (Except Error Answer)
  | pedersen first second, s => (Bridge.pedersen P first second s).map bytesAnswer
  | sign privateKey message k, s => (Bridge.sign P privateKey message k s).map bytesAnswer
  | signDeterministic privateKey message seed, s =>
    (Bridge.signDeterministic P privateKey message seed s).map bytesAnswer
  | verify key hash r w, s =>
    (Bridge.verify P key hash r w s).map fun valid => .ok (.verdict valid)
  | verifySignature key hash signature, s =>
    (Bridge.verifySignature P key hash signature s).map fun valid => .ok (.verdict valid)
  | publicKey privateKey, s => (Bridge.publicKey P privateKey s).map bytesAnswer
  | hades grid, s => (Bridge.hades P grid s).map fun answer => answer.map .grid
  | hadesState state, s =>
    (Bridge.hadesState P state s).map fun answer => answer.map fun state => .grid state.toGrid
  | pedersenOnElements elements, s =>
    (Bridge.pedersenOnElements P elements s).map bytesAnswer
  | poseidonHash first second, s => (Bridge.poseidonHash P first second s).map bytesAnswer
  | poseidonHashSingle value, s => (Bridge.poseidonHashSingle P value s).map bytesAnswer
  | poseidonHashMany elements, s => (Bridge.poseidonHashMany P elements s).map bytesAnswer

/-- The operations carried out in order, each from the state that the one before it left. -/
def runAll : List Operation → σ → List (Run σ (Except Error Answer))
  | [], _ => []
  | op :: rest, s =>
    let r := op.run P s
    r :: runAll rest r.state

end Operation
end Bridge
end StarkWire
