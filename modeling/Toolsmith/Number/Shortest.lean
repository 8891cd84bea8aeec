/-
The shortest decimal that reads back as a given double. For one digit, two
digits and so on, the two neighbours of the number on that decimal grid are
tested against the interval of reals that round to the number; the first
grid with a hit gives the digits, and of two hits the nearer one.
-/
import Toolsmith.Number.Binary64

namespace Toolsmith.Number

/-- A positive decimal `digits * 10 ^ exponent`. -/
structure Decimal where
  digits : Nat
  exponent : Int
  deriving DecidableEq, Repr

/-- The largest `k` with `10 ^ k ≤ num / den`, for positive naturals. -/
def floorLog10 (num den : Nat) : Int :=
  let guess := (Binary64.floorLog2 num den * 30103).fdiv 100000
  let reaches (k : Int) : Bool :=
    if k < 0 then den ≤ num * Nat.pow 10 k.natAbs
    else den * Nat.pow 10 k.natAbs ≤ num
  if reaches (guess + 1) then guess + 1
  else if reaches guess then guess
  else guess - 1

/-- The interval of reals that round to one number, in multiples of a unit
`num / den`: the number itself, the two ends, and whether the ends belong
to it. -/
structure Interval where
  num : Nat
  den : Nat
  value : Nat
  low : Nat
  high : Nat
  closed : Bool

/-- The reals that round to `mantissa * 2 ^ exponent`. Just above a power
of two the lower half gap is a quarter. -/
def Interval.around (mantissa : Nat) (exponent : Int) : Interval :=
  let (num, den) := Binary64.scaled 1 1 (2 - exponent)
  let narrow := mantissa == Nat.pow 2 52 && Binary64.leastExponent < exponent
  { num, den
    value := 4 * mantissa
    low := 4 * mantissa - (if narrow then 1 else 2)
    high := 4 * mantissa + 2
    closed := mantissa % 2 == 0 }

/-- The decimal grid point `k * 10 ^ step` as a fraction. -/
def gridPoint (k : Nat) (step : Int) : Nat × Nat :=
  if step < 0 then (k, Nat.pow 10 step.natAbs)
  else (k * Nat.pow 10 step.natAbs, 1)

/-- The fraction `n / d` lies in the interval. -/
def Interval.holds (i : Interval) (n d : Nat) : Bool :=
  let point := n * i.den
  let unit := i.num * d
  if i.closed then i.low * unit ≤ point && point ≤ i.high * unit
  else i.low * unit < point && point < i.high * unit

/-- The hit on the grid of step `10 ^ step`, the nearer one if both
neighbours hit. -/
def Interval.hit? (i : Interval) (step : Int) : Option Nat :=
  let (stepNum, stepDen) := gridPoint 1 step
  let k := (i.value * i.num * stepDen) / (i.den * stepNum)
  let inside (k : Nat) : Bool :=
    let (n, d) := gridPoint k step
    i.holds n d
  let distance (k : Nat) : Nat :=
    let (n, d) := gridPoint k step
    let point := n * i.den
    let here := i.value * i.num * d
    max point here - min point here
  match inside k, inside (k + 1) with
  | true, true =>
    if distance (k + 1) < distance k
      || (distance (k + 1) == distance k && k % 2 == 1)
    then some (k + 1) else some k
  | true, false => some k
  | false, true => some (k + 1)
  | false, false => none

/-- The first hit on the grids of `tried` and more digits, for a number
whose leading digit has weight `10 ^ lead`. -/
def Interval.search (i : Interval) (lead : Int) : Nat → Nat → Decimal
  | 0, _ => ⟨0, 0⟩
  | fuel + 1, tried =>
    let step := lead + 1 - tried
    match i.hit? step with
    | some k => ⟨k, step⟩
    | none => i.search lead fuel (tried + 1)

/-- Moves the zeros at the end of the digits into the exponent. -/
def trimZeros : Nat → Decimal → Decimal
  | 0, d => d
  | fuel + 1, ⟨digits, exponent⟩ =>
    if digits != 0 && digits % 10 == 0 then
      trimZeros fuel ⟨digits / 10, exponent + 1⟩
    else ⟨digits, exponent⟩

/-- The shortest decimal that reads back as `mantissa * 2 ^ exponent`, for
a positive mantissa. -/
def shortest (mantissa : Nat) (exponent : Int) : Decimal :=
  let i := Interval.around mantissa exponent
  let lead := floorLog10 (i.value * i.num) i.den
  trimZeros 20 (i.search lead 17 1)

end Toolsmith.Number
