/-
Surrogates: the code points that only pairs of UTF-16 units have a use for.
A text holds characters, and a surrogate alone is none, yet an escape may
ask for one. It is held as the character 0x100000 places behind it, which
is meant for private use and stands for nothing else here.
-/
import Toolsmith.Text.Class

namespace Toolsmith.Text

/-- The code point is a surrogate. -/
def isSurrogate (n : Nat) : Bool := 0xd800 ≤ n && n ≤ 0xdfff

/-- A surrogate of the first half of a pair. -/
def isHighSurrogate (n : Nat) : Bool := 0xd800 ≤ n && n ≤ 0xdbff

/-- A surrogate of the second half of a pair. -/
def isLowSurrogate (n : Nat) : Bool := 0xdc00 ≤ n && n ≤ 0xdfff

/-- The code point of a pair. -/
def pairValue (high low : Nat) : Nat :=
  0x10000 + (high - 0xd800) * 0x400 + (low - 0xdc00)

/-- The character that holds a code point. -/
def ofCodePoint (n : Nat) : Char :=
  if isSurrogate n then Char.ofNat (0x100000 + n) else Char.ofNat n

/-- The code point that a character holds. -/
def codePoint (c : Char) : Nat :=
  if isSurrogate (c.toNat - 0x100000) then c.toNat - 0x100000 else c.toNat

/-- The character holds a surrogate. -/
def isLone (c : Char) : Bool := isSurrogate (c.toNat - 0x100000)

/-- A run of lone surrogates in a text: the first of them, its place, and
how many they are. -/
structure Lone where
  unit : Nat
  place : Nat
  count : Nat
  deriving DecidableEq, Repr

/-- The first run of lone surrogates in a text. -/
def Lone.find? (s : List Char) : Option Lone :=
  let before := s.takeWhile (!isLone ·)
  match s.drop before.length with
  | [] => none
  | c :: rest =>
    some ⟨codePoint c, before.length, (rest.takeWhile isLone).length + 1⟩

/-- The wording for lone surrogates where octets are needed. -/
def Lone.message (run : Lone) : String :=
  let what : String :=
    if run.count == 1 then
      "character '\\u" ++ String.ofList (hexText 4 run.unit)
        ++ s!"' in position {run.place}"
    else
      s!"characters in position {run.place}-{run.place + run.count - 1}"
  s!"'utf-8' codec can't encode {what}: surrogates not allowed"

/-- A text with an escape for every lone surrogate. -/
def escapeLone (s : List Char) : List Char :=
  s.flatMap fun c =>
    if isLone c then '\\' :: 'u' :: hexText 4 (codePoint c) else [c]

end Toolsmith.Text
