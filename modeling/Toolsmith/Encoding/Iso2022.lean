/-
Character sets with states: escape sequences choose the set that the octets
after them are read in. All octets are seven-bit; an octet of the high half
is no character.
-/
import Toolsmith.Encoding.Multibyte

namespace Toolsmith

open CodeTable

/-- A set that an escape sequence can choose. -/
inductive Designated where
  | ascii
  /-- ASCII with the yen sign and the overline. -/
  | roman
  | katakana
  | jisX0208
  | jisX0212
  | plane1 (later : Bool)
  | plane2
  | gb2312
  | ksX1001
  | latin1
  | greek
  deriving DecidableEq, Repr

namespace Designated

/-- How many octets make a character. -/
def width : Designated → Nat
  | ascii | roman | katakana | latin1 | greek => 1
  | _ => 2

/-- The characters of as many octets as the set wants. The last two sets are
chosen for single shifts only. -/
def chars (set : Designated) (octets : List Nat) : List Char :=
  match set, octets with
  | ascii, [o] => [Char.ofNat o]
  | roman, [o] =>
    [if o == 0x5c then '¥' else if o == 0x7e then '‾' else Char.ofNat o]
  | katakana, [o] => (Multibyte.katakana? (o + 0x80)).toList
  | jisX0208, [a, b] => (CodeTable.jisX0208.char? (a * 256 + b)).toList
  | jisX0212, [a, b] => (CodeTable.jisX0212.char? (a * 256 + b)).toList
  | plane1 later, [a, b] => Multibyte.plane1 later (a * 256 + b)
  | plane2, [a, b] => (Multibyte.plane2 true (a * 256 + b)).toList
  | gb2312, [a, b] => (CodeTable.gb2312.char? (a * 256 + b)).toList
  | ksX1001, [a, b] => (CodeTable.ksX1001.char? (a * 256 + b)).toList
  | _, _ => []

/-- The character of an octet after a single shift. -/
def shifted? (set : Designated) (o : Nat) : Option Char :=
  match set with
  | ascii => if o < 0x80 then some (Char.ofNat o) else none
  | latin1 => if o < 0x80 then some (Char.ofNat (o + 0x80)) else none
  | greek =>
    let c := if o < 0x80 then o + 0x80 else o - 0x80
    if c == 0xa1 then some '‘'
    else if c == 0xa2 then some '’'
    else if c == 0xaf then some '―'
    else if c < 0xa0
        || [0xa0, 0xa3, 0xa6, 0xa7, 0xa8, 0xa9, 0xab, 0xac, 0xad, 0xb0,
            0xb1, 0xb2, 0xb3, 0xb7, 0xbb, 0xbd].contains c then
      some (Char.ofNat c)
    else if 0xb4 ≤ c && c ≤ 0xfe && c != 0xd2 then
      some (Char.ofNat (0x2d0 + c))
    else none
  | _ => none

end Designated

/-- The variants. -/
inductive Iso2022 where
  | japanese
  | japanese1
  | japanese2
  | japanese2004
  | japanese3
  | japaneseExtended
  | korean
  deriving DecidableEq, Repr

namespace Iso2022

/-- The two octets that open a designation of a set and its last octet. -/
structure Choice where
  isWide : Bool
  final : Char
  deriving DecidableEq, Repr

/-- The sets of a variant, with what chooses them. -/
def sets : Iso2022 → List (Choice × Designated)
  | japanese =>
    [(⟨true, 'B'⟩, .jisX0208), (⟨false, 'J'⟩, .roman),
     (⟨true, '@'⟩, .jisX0208)]
  | japanese1 =>
    [(⟨true, 'B'⟩, .jisX0208), (⟨true, 'D'⟩, .jisX0212),
     (⟨false, 'J'⟩, .roman), (⟨true, '@'⟩, .jisX0208)]
  | japanese2 =>
    [(⟨true, 'B'⟩, .jisX0208), (⟨true, 'D'⟩, .jisX0212),
     (⟨true, 'C'⟩, .ksX1001), (⟨true, 'A'⟩, .gb2312),
     (⟨false, 'J'⟩, .roman), (⟨true, '@'⟩, .jisX0208),
     (⟨false, 'A'⟩, .latin1), (⟨false, 'F'⟩, .greek)]
  | japanese2004 =>
    [(⟨true, 'B'⟩, .jisX0208), (⟨true, 'Q'⟩, .plane1 true),
     (⟨true, 'P'⟩, .plane2)]
  | japanese3 =>
    [(⟨true, 'B'⟩, .jisX0208), (⟨true, 'O'⟩, .plane1 false),
     (⟨true, 'P'⟩, .plane2)]
  | japaneseExtended =>
    [(⟨true, 'B'⟩, .jisX0208), (⟨true, 'D'⟩, .jisX0212),
     (⟨false, 'J'⟩, .roman), (⟨false, 'I'⟩, .katakana),
     (⟨true, '@'⟩, .jisX0208)]
  | korean => [(⟨true, 'C'⟩, .ksX1001)]

/-- Shift octets change between the two working sets. -/
def hasShifts (v : Iso2022) : Bool := v == korean

/-- There is a third set for single shifts. -/
def hasThird (v : Iso2022) : Bool := v == japanese2

/-- A designation may announce an update of its set first. -/
def hasUpdate (v : Iso2022) : Bool := v != korean

/-- What the octets so far have chosen. Inside a foreign escape sequence the
octets stand for themselves. -/
structure State where
  first : Designated
  second : Designated
  third : Designated
  isShifted : Bool
  isForeign : Bool
  deriving DecidableEq, Repr

/-- Nothing is chosen. -/
def State.start : State := ⟨.ascii, .ascii, .ascii, false, false⟩

/-- Chooses a set for one of the three places. -/
def State.choose (s : State) (place : Nat) (set : Designated) : State :=
  match place with
  | 0 => { s with first := set }
  | 1 => { s with second := set }
  | _ => { s with third := set }

/-- The octet that begins escape sequences. -/
def escape : Nat := 0x1b

/-- The octet ends an escape sequence. -/
def isFinal (o : Nat) : Bool := 0x40 ≤ o && o ≤ 0x5a

/-- How far an escape sequence reaches. -/
inductive Reach where
  | octets (count : Nat)
  | tooLong
  | brokenOff
  deriving DecidableEq, Repr

/-- Looks for the last octet of an escape sequence among the octets behind
its first, `place` of which are passed. Octets that announce an update do
not end it. The first argument bounds the places that count. -/
def reach (hasUpdate : Bool) : Nat → Nat → List Nat → Reach
  | 0, _, _ => .tooLong
  | _ + 1, _, [] => .brokenOff
  | fuel + 1, place, o :: rest =>
    if isFinal o then .octets (place + 2)
    else
      match rest with
      | next :: more =>
        if hasUpdate && o == 0x26 && next == 0x40 then
          match fuel, more with
          | fuel + 2, _ :: behind => reach hasUpdate fuel (place + 3) behind
          | _, [] => .brokenOff
          | _, _ => .tooLong
        else reach hasUpdate fuel (place + 1) (next :: more)
      | [] => if fuel == 0 then .tooLong else .brokenOff

/-- The place and the choice that the octets of an escape sequence behind
its first ask for. Two octets of any kind may announce the last form. -/
def designation? (v : Iso2022) (octets : List Nat) :
    Option (Nat × Choice) :=
  match octets with
  | [0x24, f] => some (0, ⟨true, Char.ofNat f⟩)
  | [0x28, f] => some (0, ⟨false, Char.ofNat f⟩)
  | [0x29, f] => some (1, ⟨false, Char.ofNat f⟩)
  | [0x2e, f] =>
    if v.hasThird then some (2, ⟨false, Char.ofNat f⟩) else none
  | [0x24, 0x28, f] => some (0, ⟨true, Char.ofNat f⟩)
  | [0x24, 0x29, f] => some (1, ⟨true, Char.ofNat f⟩)
  | [_, _, 0x1b, 0x24, 0x42] =>
    if v.hasUpdate then some (0, ⟨true, 'B'⟩) else none
  | _ => none

/-- The set of a choice. ASCII can always be chosen. -/
def set? (v : Iso2022) (choice : Choice) : Option Designated :=
  if choice == ⟨false, 'B'⟩ then some .ascii else v.sets.lookup choice

/-- What octets begin with, the octets after it, and the state after it. -/
structure Piece where
  state : State
  chars : List (Option Char)
  rest : List UInt8
  deriving Repr

/-- How many octets of an escape sequence may come without its end. -/
def patience : Nat := 8

/-- Reads an escape sequence, given the octets behind its first. There is
nothing to be had if it breaks off late. -/
def readEscape (v : Iso2022) (s : State) (rest : List UInt8) :
    Option Piece :=
  match reach v.hasUpdate 15 0 (rest.map UInt8.toNat) with
  | .brokenOff =>
    if patience ≤ rest.length then none else some ⟨s, [none], []⟩
  | .tooLong => some ⟨s, [none], rest⟩
  | .octets count =>
    let octets := (rest.take (count - 1)).map UInt8.toNat
    let behind := rest.drop (count - 1)
    match v.designation? octets with
    | none => some ⟨s, [none], behind⟩
    | some (place, choice) =>
      match v.set? choice with
      | none => some ⟨s, [none], behind⟩
      | some set => some ⟨s.choose place set, [], behind⟩

/-- Reads what begins with an octet. -/
def step (v : Iso2022) (s : State) (o : UInt8) (rest : List UInt8) :
    Option Piece :=
  let n := o.toNat
  let itself (after : State) : Option Piece :=
    some ⟨after, [some (Char.ofNat n)], rest⟩
  if s.isForeign then itself { s with isForeign := !isFinal n }
  else if n == escape then
    match rest with
    | [] => some ⟨s, [none], []⟩
    | next :: more =>
      if [0x28, 0x29, 0x24, 0x2e, 0x26].contains next.toNat then
        v.readEscape s rest
      else if v.hasThird && next.toNat == 0x4e then
        match more with
        | [] => some ⟨s, [none], []⟩
        | third :: behind =>
          some ⟨s, [s.third.shifted? third.toNat], behind⟩
      else itself { s with isForeign := true }
  else if n == 0x0f && v.hasShifts then
    some ⟨{ s with isShifted := false }, [], rest⟩
  else if n == 0x0e && v.hasShifts then
    some ⟨{ s with isShifted := true }, [], rest⟩
  else if n == 0x0a then itself { s with isShifted := false }
  else if n < 0x20 then itself s
  else if 0x80 ≤ n then some ⟨s, [none], rest⟩
  else
    let set := if s.isShifted then s.second else s.first
    let more := rest.take (set.width - 1)
    if more.length + 1 < set.width then some ⟨s, [none], []⟩
    else
      let behind := rest.drop (set.width - 1)
      match set.chars (n :: more.map UInt8.toNat) with
      | [] => some ⟨s, [none], behind⟩
      | cs => some ⟨s, cs.map some, behind⟩

/-- The characters of octets; the first argument bounds their number. -/
def readAll (v : Iso2022) :
    Nat → State → List UInt8 → Option (List (Option Char))
  | 0, _, _ => some []
  | _ + 1, _, [] => some []
  | fuel + 1, s, o :: rest => do
    let piece ← v.step s o rest
    return piece.chars ++ (← readAll v fuel piece.state piece.rest)

/-- The characters of octets, with `none` for octets that are none, unless
they end late in an escape sequence. -/
def read (v : Iso2022) (octets : List UInt8) :
    Option (List (Option Char)) :=
  v.readAll octets.length .start octets

end Iso2022

end Toolsmith
