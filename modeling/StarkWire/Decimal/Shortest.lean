/-
# The shortest decimal of a binary number

A binary floating-point number `m * 2 ^ q` stands for every real number that rounds to it.  These
form an interval around it: half a unit of `q` to either side, but only a quarter below where the
spacing below is half as wide; its ends belong to it if and only if `m` is even.

The shortest decimal is the one on the coarsest grid of multiples of `10 ^ k` that has a point in
the interval.  Of two such points the nearer one is taken, and of two at the same distance the
even one.
-/

namespace StarkWire
namespace Decimal

/-- `digits * 10 ^ exponent`. -/
structure Scaled where
  digits : Nat
  exponent : Int
deriving DecidableEq

/-- A positive binary number `mantissa * 2 ^ exponent`; below a `narrow` one the spacing is half
as wide. -/
structure Binary where
  mantissa : Nat
  exponent : Int
  narrow : Bool
deriving DecidableEq

namespace Binary

/-- The number in quarters of its unit. -/
def middle (b : Binary) : Nat := 4 * b.mantissa

/-- The lower end of its interval, in quarters of its unit. -/
def lower (b : Binary) : Nat := b.middle - if b.narrow then 1 else 2

/-- The upper end of its interval, in quarters of its unit. -/
def upper (b : Binary) : Nat := b.middle + 2

/-- Whether `x` lies between `low` and `high`, with the ends if the mantissa is even. -/
def within (b : Binary) (low high x : Nat) : Bool :=
  if b.mantissa % 2 = 0 then low ≤ x && x ≤ high else low < x && x < high

/-- What a count of quarters is multiplied by, and what a count of grid steps `10 ^ k` is, to
compare the two as whole numbers. -/
def scales (b : Binary) (k : Int) : Nat × Nat :=
  let q := b.exponent - 2
  (Nat.pow 2 q.toNat * Nat.pow 10 (-k).toNat, Nat.pow 2 (-q).toNat * Nat.pow 10 k.toNat)

/-- The multiple of `10 ^ k` in the interval that is nearest to the number. -/
def onGrid? (b : Binary) (k : Int) : Option Scaled :=
  let (quarter, step) := b.scales k
  let v := b.middle * quarter
  let d := v / step
  let inside := b.within (b.lower * quarter) (b.upper * quarter)
  match inside (d * step), inside ((d + 1) * step) with
  | false, false => none
  | true, false => some ⟨d, k⟩
  | false, true => some ⟨d + 1, k⟩
  | true, true =>
    let below := v - d * step
    let above := (d + 1) * step - v
    if below < above ∨ (below = above ∧ d % 2 = 0) then some ⟨d, k⟩ else some ⟨d + 1, k⟩

/-- The exponents of the grids on which a double may have its shortest decimal, coarsest first. -/
def gridExponents : List Int := (List.range 700).map fun (i : Nat) => 309 - (i : Int)

/-- The shortest decimal. -/
def shortest (b : Binary) : Scaled := (gridExponents.findSome? b.onGrid?).getD ⟨0, 0⟩

end Binary

/-- `2 ^ 52`, which the stored fraction of a double stays below. -/
def fractionBound : Nat := 0x10000000000000

/-- `2 ^ 11`, which the stored exponent of a double stays below. -/
def powerBound : Nat := 0x800

/-- A double of either sign without its sign; `none` for zero. -/
def binary? (f : Float) : Option Binary :=
  let bits := f.toBits.toNat
  let fraction := bits % fractionBound
  let power := (bits / fractionBound) % powerBound
  if power = 0 then
    if fraction = 0 then none else some ⟨fraction, -1074, false⟩
  else some ⟨fractionBound + fraction, Int.ofNat power - 1075, fraction = 0 ∧ 1 < power⟩

/-- An exponent with its sign, which is written for a positive one too. -/
def exponentText (e : Int) : List Char :=
  (if e < 0 then '-' else '+') :: Nat.toDigits 10 e.natAbs

/-- The text of a decimal: positional from `10 ^ -5` up to, but not including, `10 ^ 16`, always
with a point; beyond these, one digit before the point, `e`, and the exponent with its sign. -/
def Scaled.toText (d : Scaled) : String :=
  let digits := Nat.toDigits 10 d.digits
  let point := (digits.length : Int) + d.exponent
  let zeros (n : Int) : List Char := List.replicate n.toNat '0'
  String.ofList <|
    if 0 ≤ d.exponent ∧ point ≤ 16 then digits ++ zeros d.exponent ++ ['.', '0']
    else if 0 < point ∧ point ≤ 16 then
      digits.take point.toNat ++ ['.'] ++ digits.drop point.toNat
    else if -5 < point ∧ point ≤ 0 then ['0', '.'] ++ zeros (-point) ++ digits
    else
      let tail := digits.drop 1
      digits.take 1 ++ (if tail = [] then [] else '.' :: tail) ++ ['e']
        ++ exponentText (point - 1)

/-- The text of a finite double without its sign. -/
def magnitudeText (f : Float) : String :=
  match binary? f with
  | some b => b.shortest.toText
  | none => "0.0"

end Decimal
end StarkWire
