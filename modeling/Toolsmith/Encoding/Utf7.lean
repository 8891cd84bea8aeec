/-
UTF-7: ASCII in which a plus sign opens a run of sixteen-bit units, written
in base 64 and ended by the first character that is no digit.
-/
import Toolsmith.Encoding.Base64
import Toolsmith.Text.Surrogate

namespace Toolsmith.Utf7

open Text

/-- What a run holds back: bits that make no unit yet, their value, and the
first half of a pair. -/
structure Run where
  bits : Nat
  value : Nat
  high : Option Nat
  deriving DecidableEq, Repr

/-- An open run before its first digit. -/
def Run.start : Run := ⟨0, 0, none⟩

/-- The value of a digit of base 64. -/
def digit? (o : UInt8) : Option Nat := Base64.value? (Char.ofNat o.toNat)

/-- Takes a unit: the half of a pair that it waits with, and the characters
that it completes. -/
def pair (high : Option Nat) (unit : Nat) : Option Nat × List (Option Char) :=
  match high with
  | some first =>
    if isLowSurrogate unit then
      (none, [some (Char.ofNat (pairValue first unit))])
    else if isHighSurrogate unit then (some unit, [some (ofCodePoint first)])
    else (none, [some (ofCodePoint first), some (ofCodePoint unit)])
  | none =>
    if isHighSurrogate unit then (some unit, [])
    else (none, [some (ofCodePoint unit)])

/-- Takes a digit: the run after it and the characters that it completes. -/
def Run.push (r : Run) (digit : Nat) : Run × List (Option Char) :=
  let value := r.value * 64 + digit
  let bits := r.bits + 6
  if bits < 16 then (⟨bits, value, r.high⟩, [])
  else
    let left := bits - 16
    let (high, chars) := pair r.high (value / Nat.pow 2 left)
    (⟨left, value % Nat.pow 2 left, high⟩, chars)

/-- Bits are left over that are no padding. -/
def Run.isBroken (r : Run) : Bool :=
  6 ≤ r.bits || (0 < r.bits && r.value != 0)

/-- The characters of octets, inside a run if there is one. -/
def read : Option Run → List UInt8 → List (Option Char)
  | none, [] => []
  | some r, [] => if r.high.isSome || r.isBroken then [none] else []
  | none, o :: rest =>
    if o.toNat == 0x2b then
      match rest with
      | [] => []
      | next :: more =>
        if next.toNat == 0x2d then some '+' :: read none more
        else
          match digit? next with
          | none => none :: read none more
          | some d =>
            let (r, chars) := Run.start.push d
            chars ++ read (some r) more
    else if o.toNat < 0x80 then
      some (Char.ofNat o.toNat) :: read none rest
    else none :: read none rest
  | some r, o :: rest =>
    match digit? o with
    | some d =>
      let (after, chars) := r.push d
      chars ++ read (some after) rest
    | none =>
      if r.isBroken then none :: read none rest
      else if 0x80 ≤ o.toNat then none :: read none rest
      else
        let pending := (r.high.map fun n => some (ofCodePoint n)).toList
        if o.toNat == 0x2d then pending ++ read none rest
        else pending ++ some (Char.ofNat o.toNat) :: read none rest

end Toolsmith.Utf7
