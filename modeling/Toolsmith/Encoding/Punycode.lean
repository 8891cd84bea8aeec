/-
Punycode: the ASCII characters of a text, then after the last dash where its
other characters go, as differences in numbers of base 36.
-/
import Toolsmith.Text.Surrogate

namespace Toolsmith.Punycode

open Text

/-- The value of a digit. Letters, whose case does not count, come before
the decimal digits. -/
def digit? (o : Nat) : Option Nat :=
  if 0x41 ≤ o && o ≤ 0x5a then some (o - 0x41)
  else if 0x61 ≤ o && o ≤ 0x7a then some (o - 0x61)
  else if 0x30 ≤ o && o ≤ 0x39 then some (o - 22)
  else none

/-- The least digit that does not end a number, at a place of it. -/
def threshold (place bias : Nat) : Nat :=
  let n : Int := 36 * (place + 1) - bias
  if n < 1 then 1 else if 26 < n then 26 else n.toNat

/-- Reads a number from a place of it on: its value and the octets after it,
or nothing if it breaks off or holds what is no digit. -/
def number? (bias place weight value : Nat) :
    List Nat → Option (Nat × List Nat)
  | [] => none
  | o :: rest =>
    match digit? o with
    | none => none
    | some d =>
      let t := threshold place bias
      let sum := value + d * weight
      if d < t then some (sum, rest)
      else number? bias (place + 1) (weight * (36 - t)) sum rest

/-- Brings a difference down to the range of one digit, counting how often;
the first argument bounds the steps. -/
def scale : Nat → Nat → Nat → Nat × Nat
  | 0, delta, steps => (delta, steps)
  | fuel + 1, delta, steps =>
    if delta ≤ 455 then (delta, steps)
    else scale fuel (delta / 35) (steps + 1)

/-- The bias after a difference, by the number of characters there are. -/
def adapt (delta : Nat) (isFirst : Bool) (size : Nat) : Nat :=
  let damped := delta / (if isFirst then 700 else 2)
  let (rest, steps) := scale (damped.log2 + 2) (damped + damped / size) 0
  steps * 36 + 36 * rest / (rest + 38)

/-- Where the next character goes, counted from the last one's place, and
what the differences are counted from. -/
structure Cursor where
  next : Nat
  code : Nat
  bias : Nat
  isFirst : Bool
  deriving DecidableEq, Repr

/-- Puts characters into a text as long as there are differences. Beyond the
last code point a question mark is put in. The first argument bounds the
number of characters. -/
def insert : Nat → Cursor → List Char → List Nat → List Char
  | 0, _, text, _ => text
  | _ + 1, _, text, [] => text
  | fuel + 1, s, text, octets =>
    match number? s.bias 0 1 0 octets with
    | none => text
    | some (delta, rest) =>
      let size := text.length + 1
      let sum := s.next + delta
      let reached := s.code + sum / size
      let code := if 0x10ffff < reached then '?'.toNat else reached
      let place := sum % size
      let longer :=
        text.take place ++ ofCodePoint code :: text.drop place
      insert fuel
        ⟨place + 1, code, adapt delta s.isFirst longer.length, false⟩
        longer rest

/-- The ASCII octets before the last dash and the octets after it. -/
def halves (octets : List Nat) : List Nat × List Nat :=
  let back := octets.reverse
  let after := (back.takeWhile (· != 0x2d)).reverse
  (octets.take (octets.length - after.length - 1), after)

/-- The first octet of the differences that is not ASCII, and its place. -/
def foreign? (octets : List Nat) : Option (Nat × Nat) :=
  let after := (halves octets).2
  (after.find? (0x80 ≤ ·)).map fun o =>
    (o, (after.takeWhile (· < 0x80)).length)

/-- The text of octets, with replacement characters. -/
def decode (octets : List Nat) : List Char :=
  let (before, after) := halves octets
  insert after.length ⟨0, 0x80, 72, true⟩
    (before.map fun o => if o < 0x80 then Char.ofNat o else '\ufffd') after

end Toolsmith.Punycode
