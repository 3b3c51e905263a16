/-
# The program

Reads the command line, carries the command out and prints what it has to say.  A hash is timed.
-/

import StarkWire.CommandLine.Execute

namespace StarkWire
namespace CommandLine

/-- A number of nanoseconds in the largest unit that leaves a whole part, without trailing zeros.
-/
def durationText (nanos : Nat) : String :=
  let inUnit (digits : Nat) (unit : String) : String :=
    let size := Nat.pow 10 digits
    let whole := toString (nanos / size)
    let fraction := (toString (size + nanos % size)).toList.drop 1
    let fraction := (fraction.reverse.dropWhile (· = '0')).reverse
    whole ++ (if fraction = [] then "" else "." ++ String.ofList fraction) ++ unit
  if 1000000000 ≤ nanos then inUnit 9 "s"
  else if 1000000 ≤ nanos then inUnit 6 "ms"
  else if 1000 ≤ nanos then inUnit 3 "µs"
  else inUnit 0 "ns"

/-- The time between two readings of the clock. -/
def elapsedBetween (start finish : Nat) : Elapsed :=
  ⟨(finish - start) / 1000, durationText (finish - start)⟩

/-- The output of a command line, with the time that the command takes. -/
def timedOutput (words : List String) : IO Output := do
  match parse words with
  | .error stop => return stop.output
  | .ok invocation =>
    let start ← IO.monoNanosNow
    let report ← IO.lazyPure fun _ => invocation.command.report
    let finish ← IO.monoNanosNow
    return present invocation.format (elapsedBetween start finish) report

end CommandLine
end StarkWire

open StarkWire.CommandLine in
/-- Prints what a command line has to say and gives its exit code. -/
def main (words : List String) : IO UInt32 := do
  let output ← timedOutput words
  output.err.forM IO.eprintln
  output.out.forM IO.println
  return output.code.toUInt32
