/-
Sixteen-bit and thirty-two-bit units: the code points that octets give in
either order. A surrogate outside a pair is a code point here too, so that a
strict reader and a lenient one can tell it from octets that are none.
-/
import Toolsmith.Text.Surrogate

namespace Toolsmith

open Text (isHighSurrogate isLowSurrogate isSurrogate pairValue)

/-- Which octet of a unit comes first. -/
inductive ByteOrder where
  | bigEndian
  | littleEndian
  deriving DecidableEq, Repr

namespace ByteOrder

/-- The unit of two octets. -/
def unit (order : ByteOrder) (a b : UInt8) : Nat :=
  match order with
  | bigEndian => a.toNat * 256 + b.toNat
  | littleEndian => b.toNat * 256 + a.toNat

/-- The code points of sixteen-bit units. An octet over at the end is none,
and the half of a pair before it is lost with it. -/
def points16 (order : ByteOrder) : List UInt8 → List (Option Nat)
  | a :: b :: c :: d :: rest =>
    let first := order.unit a b
    let second := order.unit c d
    if isHighSurrogate first && isLowSurrogate second then
      some (pairValue first second) :: points16 order rest
    else some first :: points16 order (c :: d :: rest)
  | [a, b, _] =>
    let first := order.unit a b
    if isHighSurrogate first then [none] else [some first, none]
  | [a, b] => [some (order.unit a b)]
  | [_] => [none]
  | [] => []

/-- The code points of thirty-two-bit units. Octets over at the end are
none, as are units beyond the last code point. -/
def points32 (order : ByteOrder) : List UInt8 → List (Option Nat)
  | a :: b :: c :: d :: rest =>
    let n :=
      match order with
      | bigEndian => order.unit a b * 65536 + order.unit c d
      | littleEndian => order.unit c d * 65536 + order.unit a b
    (if n < 0x110000 then some n else none) :: points32 order rest
  | [] => []
  | _ => [none]

/-- The characters of code points. A surrogate is none. -/
def chars (points : List (Option Nat)) : List (Option Char) :=
  points.map fun p =>
    (p.filter fun n => !isSurrogate n).map Char.ofNat

/-- The text of code points if all of them are there. Surrogates stay. -/
def text? (points : List (Option Nat)) : Option (List Char) :=
  points.mapM fun p => p.map Text.ofCodePoint

end ByteOrder

end Toolsmith
