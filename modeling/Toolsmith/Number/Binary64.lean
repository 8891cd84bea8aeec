/-
Double precision numbers as exact data. A finite one is a sign, a mantissa
and a power of two, in the one form that keeps the mantissa below `2 ^ 53`
and uses its full width unless the exponent is already the least one, so
that equal data means the same number. Arithmetic is exact arithmetic on
fractions followed by one rounding step, `ofRatio`.
-/

namespace Toolsmith

/-- A double precision number: not a number, an infinity, or
`mantissa * 2 ^ exponent` under a sign. -/
inductive Binary64 where
  | nan
  | infinity (negative : Bool)
  | finite (negative : Bool) (mantissa : Nat) (exponent : Int)
  deriving DecidableEq, Repr, Inhabited

namespace Binary64

/-- The exponent of the least positive number. -/
def leastExponent : Int := -1074

/-- The largest exponent of a finite number. -/
def greatestExponent : Int := 971

/-- Zero under a sign. -/
def zero (negative : Bool) : Binary64 := finite negative 0 leastExponent

-- ============================================================ rounding

/-- The quotient of two naturals, rounded to the nearest natural; a tie
goes to the even one. -/
def roundQuotient (num den : Nat) : Nat :=
  let whole := num / den
  let rest := num % den
  if den < 2 * rest || (2 * rest == den && whole % 2 == 1) then whole + 1
  else whole

/-- `num / den` scaled by `2 ^ (-exponent)`, as a fraction. -/
def scaled (num den : Nat) (exponent : Int) : Nat × Nat :=
  if exponent < 0 then (num * Nat.pow 2 exponent.natAbs, den)
  else (num, den * Nat.pow 2 exponent.natAbs)

/-- The largest `e` with `2 ^ e ≤ num / den`, for positive naturals. -/
def floorLog2 (num den : Nat) : Int :=
  let guess : Int := (Nat.log2 num : Int) - Nat.log2 den
  let (n, d) := scaled num den guess
  if d ≤ n then guess else guess - 1

/-- The double nearest to `num / den` under a sign; a tie goes to the even
mantissa, and what rounds beyond the largest finite double is infinite. -/
def ofRatio (negative : Bool) (num den : Nat) : Binary64 :=
  if num == 0 then zero negative
  else
    let exponent := max (floorLog2 num den - 52) leastExponent
    let (n, d) := scaled num den exponent
    let mantissa := roundQuotient n d
    let (mantissa, exponent) :=
      if mantissa == Nat.pow 2 53 then (Nat.pow 2 52, exponent + 1)
      else (mantissa, exponent)
    if greatestExponent < exponent then infinity negative
    else finite negative mantissa exponent

/-- The double nearest to an integer. -/
def ofInt (n : Int) : Binary64 := ofRatio (n < 0) n.natAbs 1

/-- The double nearest to `digits * 10 ^ exponent` under a sign. Exponents
far outside the range of doubles are settled without computing the power. -/
def ofDecimal (negative : Bool) (digits : Nat) (exponent : Int) : Binary64 :=
  if digits == 0 then zero negative
  else
    let size := (Nat.log2 digits : Int)
    if exponent + size / 4 > 400 then infinity negative
    else if exponent + size < -1200 then zero negative
    else if exponent < 0 then
      ofRatio negative digits (Nat.pow 10 exponent.natAbs)
    else ofRatio negative (digits * Nat.pow 10 exponent.natAbs) 1

-- ========================================================== arithmetic

/-- The number with its sign changed. -/
def neg : Binary64 → Binary64
  | nan => nan
  | infinity s => infinity (!s)
  | finite s m e => finite (!s) m e

/-- The signed numerator and the denominator of a finite number. -/
def toRatio (negative : Bool) (mantissa : Nat) (exponent : Int) :
    Int × Nat :=
  let (n, d) := scaled mantissa 1 (-exponent)
  (if negative then -(n : Int) else n, d)

/-- The rounded sum. -/
def add : Binary64 → Binary64 → Binary64
  | nan, _ => nan
  | _, nan => nan
  | infinity s, infinity t => if s == t then infinity s else nan
  | infinity s, finite _ _ _ => infinity s
  | finite _ _ _, infinity t => infinity t
  | finite s m e, finite t n f =>
    let (a, b) := toRatio s m e
    let (c, d) := toRatio t n f
    let sum := a * d + c * b
    ofRatio (if sum == 0 then s && t else sum < 0) sum.natAbs (b * d)

/-- The rounded product. -/
def mul : Binary64 → Binary64 → Binary64
  | nan, _ => nan
  | _, nan => nan
  | infinity s, infinity t => infinity (s != t)
  | infinity s, finite t n _ => if n == 0 then nan else infinity (s != t)
  | finite s m _, infinity t => if m == 0 then nan else infinity (s != t)
  | finite s m e, finite t n f =>
    let (a, b) := toRatio s m e
    let (c, d) := toRatio t n f
    ofRatio (s != t) (a.natAbs * c.natAbs) (b * d)

-- ========================================================== comparison

/-- The number is zero, under either sign. -/
def isZero : Binary64 → Bool
  | finite _ 0 _ => true
  | _ => false

/-- Equality of numbers: zeros are equal, and what is not a number equals
nothing. -/
def sameNumber : Binary64 → Binary64 → Bool
  | nan, _ => false
  | _, nan => false
  | x, y => x == y || (x.isZero && y.isZero)

/-- The integer that the number is, if it is one. -/
def toInt? : Binary64 → Option Int
  | finite s m e =>
    let (a, b) := toRatio s m e
    if a % b == 0 then some (a / b) else none
  | _ => none

end Binary64

end Toolsmith
