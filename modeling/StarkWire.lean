import StarkWire.Bridge.Operation
import StarkWire.Bytes.Value
import StarkWire.Json.Reader
import StarkWire.Main
import StarkWire.Memory
import StarkWire.Primitive.Scripted
import StarkWire.Proofs.Modular.Inverse
import StarkWire.Proofs.Modular.Power
import StarkWire.Proofs.Primes
import StarkWire.Proofs.Field.Residue
import StarkWire.Proofs.Field.Root
import StarkWire.Proofs.Curve.Group
import StarkWire.Proofs.Curve.Ecdsa
import StarkWire.Proofs.U256.Wire
import StarkWire.Proofs.U256.Hex
import StarkWire.Proofs.U256.HexGrammar
import StarkWire.Proofs.Scalar
import StarkWire.Proofs.Bridge.Arguments
import StarkWire.Proofs.Bridge.Sizes
import StarkWire.Proofs.Bridge.Traffic
import StarkWire.Proofs.Bridge.Deterministic
import StarkWire.Proofs.Memory.Block
import StarkWire.Proofs.Bridge.Operation
import StarkWire.Proofs.Memory.Calls
import StarkWire.Proofs.Bridge.Fault
import StarkWire.Proofs.Primitive.Production
import StarkWire.Proofs.Bridge.RoundTrip
import StarkWire.Proofs.Bridge.Production
import StarkWire.Proofs.Bridge.ZeroScalar
import StarkWire.Proofs.CommandLine.Verify
import StarkWire.Proofs.Bridge.Exchange
import StarkWire.Proofs.Bridge.Sponge
import StarkWire.Proofs.Bridge.Rejection
import StarkWire.Proofs.Bridge.LogText
import StarkWire.Proofs.Bridge.Log
import StarkWire.Proofs.Bridge.PassOn
import StarkWire.Proofs.Bridge.Confidential
import StarkWire.Proofs.CommandLine.Sign
import StarkWire.Proofs.Json.Grammar
import StarkWire.Proofs.Json.Strings
import StarkWire.Proofs.Json.Values
import StarkWire.Proofs.Json.Object
import StarkWire.Proofs.Json.Signature
import StarkWire.Proofs.Curve.Abscissa
import StarkWire.Proofs.Bridge.Equation
import StarkWire.Proofs.Bridge.ListHash
import StarkWire.Proofs.Scalar.Inverse
import StarkWire.Proofs.Bridge.Grid
import StarkWire.Proofs.Bridge.Verification
import StarkWire.Proofs.Memory.Permutation
import StarkWire.Proofs.U256.HexCanonical
import StarkWire.Proofs.Bridge.DerivedNonce
import StarkWire.Proofs.Bridge.Panics
import StarkWire.Proofs.U256.HexRejection
import StarkWire.Proofs.U256.Limbs
import StarkWire.Proofs.Codecs
import StarkWire.Proofs.Json.StringValues
import StarkWire.Proofs.CommandLine.ElementCommand
import StarkWire.Proofs.CommandLine.Elements
