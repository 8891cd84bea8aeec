/-
How the digits of a double are laid out: as a positional decimal or with a
power of ten. A layout says from which exponents on the power is written and
how many digits its exponent has at least.
-/
import Toolsmith.Number.Shortest
import Toolsmith.Text.Class

namespace Toolsmith.Number

open Text

/-- The choices that tell one way of writing doubles from another. -/
structure Layout where
  /-- The least decimal exponent that is written positionally. -/
  leastPlain : Int
  /-- The least decimal exponent that needs a power of ten again. -/
  firstScaled : Int
  /-- The least number of digits of a written exponent. -/
  exponentWidth : Nat

/-- Positional from `0.0001` up to below `10 ^ 16`; an exponent has two
digits at least. -/
def Layout.plain : Layout := ⟨-4, 16, 2⟩

/-- Positional from `0.00001` up to below `10 ^ 16`; an exponent has as
many digits as it needs. -/
def Layout.compact : Layout := ⟨-5, 16, 1⟩

/-- The digits with a point after the first `whole` ones. -/
def withPoint (whole : Int) (digits : List Char) : List Char :=
  if whole ≤ 0 then
    "0.".toList ++ List.replicate whole.natAbs '0' ++ digits
  else if digits.length ≤ whole.natAbs then
    digits ++ List.replicate (whole.natAbs - digits.length) '0' ++ ".0".toList
  else
    digits.take whole.natAbs ++ '.' :: digits.drop whole.natAbs

/-- One digit, a point if more follow, and the power of ten. -/
def withPower (layout : Layout) (power : Int) : List Char → List Char
  | [] => []
  | first :: more =>
    first :: (if more.isEmpty then [] else '.' :: more)
      ++ ['e', if power < 0 then '-' else '+']
      ++ paddedText layout.exponentWidth power.natAbs

/-- A finite double in decimal: the shortest digits that read back, laid
out as `layout` says. -/
def finiteText (layout : Layout) (negative : Bool) (mantissa : Nat)
    (exponent : Int) : List Char :=
  let sign := if negative then ['-'] else []
  if mantissa == 0 then sign ++ "0.0".toList
  else
    let d := shortest mantissa exponent
    let digits := decimalText d.digits
    let power := d.exponent + digits.length - 1
    sign ++
      if layout.leastPlain ≤ power && power < layout.firstScaled then
        withPoint (power + 1) digits
      else withPower layout power digits

end Toolsmith.Number

namespace Toolsmith.Binary64

open Number

/-- The double as a word or a decimal: `nan`, `inf`, `-inf`, or the plain
layout. -/
def text : Binary64 → List Char
  | nan => "nan".toList
  | infinity negative => (if negative then "-inf" else "inf").toList
  | finite negative mantissa exponent =>
    finiteText Layout.plain negative mantissa exponent

end Toolsmith.Binary64
