/-
# Carrying out a command

The texts of the arguments are read in their order, each as hex, and the first that is no hex
value is the failure.  Then the operation of the bridge runs on their wire bytes.

A signature on the command line is the usual `(r, s)`: `s` is inverted modulo the order on the way
to the bridge, `w` on the way back.  An `s` that has no inverse does not verify.
-/

import StarkWire.Bridge.Chain
import StarkWire.CommandLine.Report
import StarkWire.Primitive.Production

namespace StarkWire
namespace CommandLine

open Bridge (Run)

/-- The value of an argument. -/
def readText (name text : String) : Except Failure U256 :=
  match U256.ofHex text with
  | .ok a => .ok a
  | .error e => .error (.ofHexError ("Invalid " ++ name ++ ": " ++ text) e)

/-- The wire bytes of an argument. -/
def readWire (name text : String) : Except Failure Buffer :=
  (readText name text).map fun a => a.encode.toList

/-- The values of several arguments of one name. -/
def readTexts (name : String) : List String → Except Failure (List U256)
  | [] => .ok []
  | text :: rest => do
    let a ← readText name text
    let as ← readTexts name rest
    return a :: as

/-- The wire bytes of several elements. -/
def readWires (texts : List String) : Except Failure (List Buffer) :=
  (readTexts "element" texts).map fun as => as.map fun a => a.encode.toList

/-- The answer of an operation, as a report. -/
def reportAnswer {α : Type} (context : String) (report : α → Except Failure Report) :
    Except Bridge.Error α → Except Failure Report
  | .ok answer => report answer
  | .error e => .error (.ofError context e)

/-- The report of a hash. -/
def hashReport : Except Bridge.Error (Bytes 32) → Except Failure Report :=
  reportAnswer "Failed to hash" fun wire => .ok (.hash (U256.decode wire))

/-- The report of a public key. -/
def publicKeyReport : Except Bridge.Error (Bytes 32) → Except Failure Report :=
  reportAnswer "Failed to derive public key" fun wire => .ok (.publicKey (U256.decode wire))

/-- The report of a signature. -/
def signatureReport : Except Bridge.Error (Bytes 64) → Except Failure Report :=
  reportAnswer "Failed to sign" fun wire =>
    match Scalar.invertModOrder (Signature.decode wire).w with
    | some s => .ok (.signature wire s)
    | none => .error ⟨"Signature has no invertible w", []⟩

/-- The report of a permuted grid. -/
def stateReport : Except Bridge.Error Grid → Except Failure Report :=
  reportAnswer "Failed to permute state" fun grid =>
    match Poseidon.WireState.ofGrid grid with
    | .ok state => .ok (.state state grid)
    | .error e => .error ⟨"Permutation returned a malformed grid", [e.message]⟩

variable {σ : Type} (P : Primitives σ)

/-- What a command does to the primitives once its arguments have been read. -/
def Command.action : Command → Except Failure (σ → Run σ (Except Failure Report))
  | .pedersen first second => do
    let a ← readWire "first" first
    let b ← readWire "second" second
    return fun s => (Bridge.pedersen P a b s).map hashReport
  | .pedersenMany elements => do
    let elements ← readWires elements
    return fun s => (Bridge.pedersenOnElements P elements s).map hashReport
  | .sign privateKey hash k => do
    let key ← readWire "private key" privateKey
    let hash ← readWire "hash" hash
    match k with
    | some k =>
      let k ← readWire "k" k
      return fun s => (Bridge.sign P key hash k s).map signatureReport
    | none => return fun s => (Bridge.signDeterministic P key hash none s).map signatureReport
  | .verify key hash r s => do
    let key ← readWire "public key" key
    let hash ← readWire "hash" hash
    let r ← readWire "r" r
    let s ← readText "s" s
    match Scalar.invertModOrder s with
    | some w =>
      return fun state => (Bridge.verify P key hash r w.encode.toList state).map fun valid =>
        .ok (.verdict valid)
    | none => return fun state => ⟨.ok (.verdict false), state, [], []⟩
  | .publicKey privateKey => do
    let key ← readWire "private key" privateKey
    return fun s => (Bridge.publicKey P key s).map publicKeyReport
  | .hades state => do
    let elements ← readTexts "state element" state
    return fun s => (Bridge.hades P (elements.map U256.limbs) s).map stateReport
  | .poseidon elements => do
    let elements ← readWires elements
    return fun s => (Bridge.poseidonHashMany P elements s).map hashReport

/-- A command carried out. -/
def Command.run (command : Command) (s : σ) : Run σ (Except Failure Report) :=
  match command.action P with
  | .ok action => action s
  | .error f => ⟨.error f, s, [], []⟩

/-- What a command reports when the production primitives answer. -/
def Command.report (command : Command) : Except Failure Report :=
  (command.run Production.primitives ()).answer

/-- A finished command printed. -/
def present (format : Format) (elapsed : Elapsed) : Except Failure Report → Output
  | .ok report => report.output format elapsed
  | .error f => f.output

/-- What the process prints for a command line, when every hash takes the time given. -/
def respond (elapsed : Elapsed) (words : List String) : Output :=
  match parse words with
  | .ok invocation => present invocation.format elapsed invocation.command.report
  | .error stop => stop.output

end CommandLine
end StarkWire
