/-
# Reports

What a command has to say, as lines of text or as one JSON document, and what is said when it
fails: what was being done, and then the causes, numbered if there are several.
-/

import StarkWire.Bridge
import StarkWire.CommandLine.Grammar
import StarkWire.Json.Document

namespace StarkWire
namespace CommandLine

open Json (Document)

/-- How long a hash took. -/
structure Elapsed where
  /-- In whole microseconds. -/
  micros : Nat
  /-- In words. -/
  text : String

/-- What a command found. -/
inductive Report where
  /-- A hash. -/
  | hash (value : U256)
  /-- A signature on the wire, and the inverse `s` of its `w`. -/
  | signature (wire : Bytes 64) (s : U256)
  /-- Whether a signature holds. -/
  | verdict (valid : Bool)
  /-- The abscissa of a public key. -/
  | publicKey (value : U256)
  /-- A permuted state, and its grid. -/
  | state (value : Poseidon.WireState) (limbs : Grid)

/-- Why a command failed. -/
structure Failure where
  context : String
  causes : List String
deriving DecidableEq

/-- What a process leaves behind: its exit code and the lines on its two streams. -/
structure Output where
  code : Nat
  out : List String
  err : List String
deriving DecidableEq

namespace Report

/-- The lines in text format. -/
def lines : Report → List String
  | hash value => [value.toHex]
  | signature wire s =>
    let sig := Signature.decode wire
    ["r: " ++ sig.r.toHex, "s: " ++ s.toHex, "w: " ++ sig.w.toHex]
  | verdict valid => [if valid then "VALID" else "INVALID"]
  | publicKey value => [value.toHex]
  | state value _ => value.elements.map U256.toHex

/-- The document in JSON format. -/
def document (elapsed : Elapsed) : Report → Document
  | hash value => .object [("hash", .element value), ("elapsed_us", .number elapsed.micros)]
  | signature wire s =>
    .object (Document.signatureMembers (Signature.decode wire) ++
      [("s", .element s), ("wire_hex", .text (hexOfBytes wire.toList))])
  | verdict valid => .object [("valid", .flag valid)]
  | publicKey value => .object [("public_key", .element value)]
  | state value limbs =>
    .object [("state", .list (value.elements.map .element)),
      ("limbs", .list (limbs.map fun row => .list (row.map fun limb => .number limb.toNat)))]

/-- The exit code: a signature that does not hold is a failure. -/
def code : Report → Nat
  | verdict false => 1
  | _ => 0

/-- What is said beside the answer in text format. -/
def remarks (elapsed : Elapsed) : Report → List String
  | hash _ => ["Computed in " ++ elapsed.text]
  | _ => []

/-- A report printed. -/
def output (format : Format) (elapsed : Elapsed) (r : Report) : Output :=
  match format with
  | .text => ⟨r.code, r.lines, r.remarks elapsed⟩
  | .json => ⟨r.code, [(r.document elapsed).pretty], []⟩

end Report

namespace Failure

/-- Causes, each with its number. -/
def numbered (first : Nat) : List String → List String
  | [] => []
  | cause :: rest => ("    " ++ toString first ++ ": " ++ cause) :: numbered (first + 1) rest

/-- The lines about the causes. -/
def causeLines : List String → List String
  | [] => []
  | [cause] => ["", "Caused by:", "    " ++ cause]
  | causes => "" :: "Caused by:" :: numbered 0 causes

/-- A failure printed. -/
def output (f : Failure) : Output := ⟨1, [], ("Error: " ++ f.context) :: causeLines f.causes⟩

/-- The failure of an operation. -/
def ofError (context : String) (e : Bridge.Error) : Failure :=
  ⟨context, e.message :: (e.cause.map SizeError.message).toList⟩

/-- The failure to read an argument. -/
def ofHexError (context : String) (e : HexError) : Failure :=
  ⟨context, e.message :: e.digitFault.toList⟩

end Failure

/-- The name and the number of this version. -/
def versionLine : String := "stark-bridge 0.1.0"

/-- How the command line is used. -/
def usageLine : String := "Usage: stark-bridge [--format text|json] COMMAND"

/-- What is said when there is nothing to carry out. -/
def Stop.output : Stop → Output
  | usage => ⟨2, [], [usageLine]⟩
  | help => ⟨0, [usageLine], []⟩
  | version => ⟨0, [versionLine], []⟩

end CommandLine
end StarkWire
