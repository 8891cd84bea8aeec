/-
Character sets in which an octet, or a few octets in a row, make a
character: those for Japanese, Chinese and Korean that have no states. An
octet that begins nothing is passed over alone; octets that break off inside
a character are lost together.
-/
import Toolsmith.Encoding.Set.Big5
import Toolsmith.Encoding.Set.Gb2312
import Toolsmith.Encoding.Set.Hkscs
import Toolsmith.Encoding.Set.JisX0208
import Toolsmith.Encoding.Set.JisX0212
import Toolsmith.Encoding.Set.JisX0213
import Toolsmith.Encoding.Set.KsX1001

namespace Toolsmith

open CodeTable

/-- The sets. The two with an edition read ten characters more in their
later one. -/
inductive Multibyte where
  | shiftJis
  | windows932
  | eucJp
  | shiftJis2004 (later : Bool)
  | eucJis2004 (later : Bool)
  | gb2312
  | gbk
  | gb18030
  | big5
  | windows950
  | big5Hkscs
  | eucKr
  | windows949
  | johab
  deriving DecidableEq, Repr

namespace Multibyte

/-- The number lies between the two bounds. -/
def within (low high n : Nat) : Bool := low ≤ n && n ≤ high

/-- A character, if there is one, as characters. -/
def single (c : Option Char) : List Char := c.toList

-- =========================================================== Japanese

/-- The seven-bit code that two octets of the shifted layout stand for. -/
def unshifted? (a b : Nat) : Option Nat :=
  let lead? : Option Nat :=
    if within 0x81 0x9f a then some (a - 0x81)
    else if within 0xe0 0xfc a then some (a - 0xc1)
    else none
  let trail? : Option Nat :=
    if within 0x40 0x7e b then some (b - 0x40)
    else if within 0x80 0xfc b then some (b - 0x41)
    else none
  lead?.bind fun lead => trail?.map fun trail =>
    (lead * 2 + trail / 94 + 0x21) * 256 + trail % 94 + 0x21

/-- The half-width katakana of an octet. -/
def katakana? (o : Nat) : Option Char :=
  if within 0xa1 0xdf o then some (Char.ofNat (0xfec0 + o)) else none

/-- The characters of a code in the first plane of JIS X 0213. -/
def plane1 (later : Bool) (code : Nat) : List Char :=
  match (jisX0208.char? code).or (jisX0213First.char? code) with
  | some c => c :: single (jisX0213Marks.char? code)
  | none => if later then single (jisX0213Later.char? code) else []

/-- The one code of the second plane that the editions read differently. -/
def revised : Nat := 0x7d3b

/-- The character of a code in the second plane of JIS X 0213. -/
def plane2 (later : Bool) (code : Nat) : Option Char :=
  if code == revised && later then some '\u9b1c'
  else jisX0213Second.char? code

/-- The character of a code in the supplement, or else in the second
plane. -/
def supplement (later : Bool) (code : Nat) : Option Char :=
  (plane2 later code).or (jisX0212.char? code)

/-- The code of the second plane that a code behind the first one stands
for: the rows that a shifted layout has room for. -/
def secondPlane (code : Nat) : Nat :=
  let rows : List Nat :=
    [0x21, 0x28, 0x23, 0x24, 0x25, 0x2c, 0x2d, 0x2e, 0x2f]
  let row := code / 256 - 0x7f
  let place : Nat := (rows[row]?).getD (row + 0x65)
  place * 256 + code % 256

-- ============================================================ Chinese

/-- Octets of the high half. -/
def isHigh (n : Nat) : Bool := within 0xa1 0xfe n

/-- The ideographs of the basic block that GB 2312 has. -/
def commonIdeographs : List Nat :=
  (CodeTable.gb2312.chars.map Char.toNat).filter (within 0x4e00 0x9fa5)

/-- How many ideographs of the basic block come before the one of the two
octets, of those that are not in GB 2312. They fill the rows before it and
then the left part of the rows beside it. -/
def rareIndex? (a b : Nat) : Option Nat :=
  let place := if b < 0x7f then b - 0x40 else b - 0x41
  if !(within 0x40 0x7e b || within 0x80 0xfe b) then none
  else if within 0x81 0xa0 a then some ((a - 0x81) * 190 + place)
  else if within 0xaa 0xfe a && b ≤ 0xa0 then
    let n := 6080 + (a - 0xaa) * 96 + place
    if n < 14139 then some n else none
  else none

/-- The character of two octets in GBK. -/
def gbkChar? (a b : Nat) : Option Char :=
  (((gbkSigns.char? (a * 256 + b)).or
    (if isHigh a && isHigh b then
      CodeTable.gb2312.char? ((a - 0x80) * 256 + (b - 0x80))
    else none))).or
    ((rareIndex? a b).map fun n =>
      Char.ofNat (untaken 0x4e00 n commonIdeographs))

/-- The character of two octets in the areas that users may fill. -/
def userChar? (a b : Nat) : Option Char :=
  if within 0xaa 0xaf a && isHigh b then
    some (Char.ofNat (0xe000 + (a - 0xaa) * 94 + (b - 0xa1)))
  else if within 0xf8 0xfe a && isHigh b then
    some (Char.ofNat (0xe234 + (a - 0xf8) * 94 + (b - 0xa1)))
  else if within 0xa1 0xa7 a && within 0x40 0x7e b then
    some (Char.ofNat (0xe4c6 + (a - 0xa1) * 96 + (b - 0x40)))
  else if within 0xa1 0xa7 a && within 0x80 0xa0 b then
    some (Char.ofNat (0xe4c6 + (a - 0xa1) * 96 + (b - 0x41)))
  else none

/-- The signs of GB 2312, without the two that its extensions read
otherwise. -/
def commonSigns : List Nat :=
  (CodeTable.gb2312.chars.map Char.toNat).filter fun n =>
    !within 0x4e00 0x9fa5 n && n != 0x2015 && n != 0x30fb

/-- The code points of the first plane that GB 18030 has under two octets,
and the surrogates, which it does not have at all, each once. -/
def shortIn18030 : List Nat :=
  commonSigns ++ (gbkSigns.chars ++ gb18030Signs.chars).map Char.toNat
    ++ List.range' 0x4e00 20902 ++ List.range' 0xd800 2048
    ++ List.range' 0xe000 1894

/-- The character of four octets in GB 18030. Such sequences count through
the first plane, past what has two octets, and then through the others. -/
def fourChar? (a b c d : Nat) : Option Char :=
  if !(within 0x81 0xfe a && within 0x81 0xfe c && within 0x30 0x39 d) then
    none
  else
    let index (first : Nat) : Nat :=
      (((a - first) * 10 + (b - 0x30)) * 126 + (c - 0x81)) * 10 + (d - 0x30)
    if a < 0x85 then
      let n := index 0x81
      if n < 39420 then some (Char.ofNat (untaken 0x80 n shortIn18030))
      else none
    else if 0x90 ≤ a then
      let n := 0x10000 + index 0x90
      if n < 0x110000 then some (Char.ofNat n) else none
    else none

/-- The characters of two octets in Big5 with the supplement for Hong Kong,
which has a part of the main set for itself. -/
def hongKong (a b : Nat) : List Char :=
  let code := a * 256 + b
  let main :=
    if within 0xc6a1 0xc8ff code then none else CodeTable.big5.char? code
  match main.or (hkscs.char? code) with
  | some c => c :: single (hkscsMarks.char? code)
  | none => []

-- ============================================================= Korean

/-- The letters that begin a syllable. -/
def initials : List Char := "ㄱㄲㄴㄷㄸㄹㅁㅂㅃㅅㅆㅇㅈㅉㅊㅋㅌㅍㅎ".toList

/-- The letters that end one. -/
def finals : List Char :=
  "ㄱㄲㄳㄴㄵㄶㄷㄹㄺㄻㄼㄽㄾㄿㅀㅁㅂㅄㅅㅆㅇㅈㅊㅋㅌㅍㅎ".toList

/-- The vowel of a number. -/
def vowel (n : Nat) : Char := Char.ofNat (0x314f + n)

/-- The syllable of an initial, a vowel and a final, which may be zero for
none. -/
def syllable (first middle last : Nat) : Char :=
  Char.ofNat (0xac00 + (first * 21 + middle) * 28 + last)

/-- The letter of an octet of the high half. -/
def letter (o : Nat) : Char := Char.ofNat (0x3131 + (o - 0xa1))

/-- The octet for a letter that is left out. -/
def filler : Nat := 0xd4

/-- The syllable that is spelled by three letters behind a filler. -/
def spelled? (octets : List Nat) : Option Char :=
  match octets with
  | [0xa4, first, 0xa4, middle, 0xa4, last] => do
    let i ← if within 0xa1 0xbe first then initials.idxOf? (letter first)
      else none
    let v ← if within 0xbf 0xd3 middle then some (middle - 0xbf) else none
    let f ← if last == filler then some 0
      else if within 0xa1 0xbe last then
        (finals.idxOf? (letter last)).map (· + 1)
      else none
    return syllable i v f
  | _ => none

/-- The syllables of KS X 1001. -/
def commonSyllables : List Nat :=
  (ksX1001.chars.map Char.toNat).filter (within 0xac00 0xd7a3)

/-- How many syllables come before the one of the two octets, of those that
are not in KS X 1001. -/
def rareSyllable? (a b : Nat) : Option Nat :=
  let place? : Option Nat :=
    if within 0x41 0x5a b then some (b - 0x41)
    else if within 0x61 0x7a b then some (b - 0x47)
    else if within 0x81 0xfe b then some (b - 0x4d)
    else none
  place?.bind fun place =>
    let n :=
      if a < 0xa1 then (a - 0x81) * 178 + place
      else 5696 + (a - 0xa1) * 84 + place
    if within 0x81 0xc6 a && (a < 0xa1 || b < 0xa1) && n < 8822 then some n
    else none

/-- The place of a number in runs of numbers, each with its first number and
its length, behind the given places. -/
def runPlace? (n before : Nat) : List (Nat × Nat) → Option Nat
  | [] => none
  | (start, size) :: rest =>
    if start ≤ n && n < start + size then some (before + (n - start))
    else runPlace? n (before + size) rest

/-- The place of a letter in the bits of Johab: nothing if the bits stand
for none, and `none` inside if they leave the letter out. -/
def place? (blank : Nat) (runs : List (Nat × Nat)) (bits : Nat) :
    Option (Option Nat) :=
  if bits == blank then some none else (runPlace? bits 0 runs).map some

/-- The character of bits for an initial, a vowel and a final. -/
def assembled? (bits : Nat) : Option Char := do
  let first ← place? 1 [(2, 19)] (bits / 1024 % 32)
  let middle ← place? 2 [(3, 5), (10, 6), (18, 6), (26, 4)] (bits / 32 % 32)
  let last ← place? 1 [(2, 16), (19, 11)] (bits % 32)
  match first, middle, last with
  | none, none, none => some '\u3000'
  | none, none, some f => finals[f]?
  | none, some v, none => some (vowel v)
  | some i, none, none => initials[i]?
  | some i, some v, last =>
    some (syllable i v ((last.map (· + 1)).getD 0))
  | _, _, _ => none

/-- The seven-bit code of two octets of Johab that make no syllable, if they
are in its part for the other characters of KS X 1001. -/
def otherCode? (a b : Nat) : Option Nat :=
  if a < 0xd9 || a == 0xdf || 0xf9 < a || b < 0x31 || within 0x80 0x90 b
      || b % 128 == 0x7f || (a == 0xda && within 0xa1 0xd3 b) then none
  else
    let row := if a < 0xe0 then 2 * (a - 0xd9) else 2 * a - 0x197
    let place := if b < 0x91 then b - 0x31 else b - 0x43
    some ((row + place / 94 + 0x21) * 256 + place % 94 + 0x21)

/-- The character of two octets of Johab. -/
def johabChar? (a b : Nat) : Option Char :=
  if a < 0xd8 then assembled? (a * 256 + b)
  else (otherCode? a b).bind ksX1001.char?

-- =========================================================== sequences

/-- The seven-bit code of two octets of the high half. Other octets have
none that a table would hold. -/
def highCode (a b : Nat) : Nat := if a < 0x80 || b < 0x80 then 0
  else (a - 0x80) * 256 + (b - 0x80)

/-- The character of one octet, if it is one alone. -/
def alone? (set : Multibyte) (o : Nat) : Option Char :=
  match set with
  | shiftJis => if o < 0x80 then some (Char.ofNat o) else katakana? o
  | windows932 =>
    if o ≤ 0x80 then some (Char.ofNat o)
    else if o == 0xa0 then some '\uf8f0'
    else if 0xfd ≤ o then some (Char.ofNat (0xf8f1 + (o - 0xfd)))
    else katakana? o
  | shiftJis2004 _ =>
    if o == 0x5c then some '¥'
    else if o == 0x7e then some '‾'
    else if o < 0x80 then some (Char.ofNat o)
    else katakana? o
  | _ => if o < 0x80 then some (Char.ofNat o) else none

/-- Two octets are lost together: those that only the later edition gives a
character. -/
def isLostPair (set : Multibyte) (a b : Nat) : Bool :=
  match set with
  | shiftJis2004 false =>
    ((unshifted? a b).bind jisX0213Later.char?).isSome
  | eucJis2004 false => (jisX0213Later.char? (highCode a b)).isSome
  | _ => false

/-- The characters of two octets; there are none if the two begin nothing
or something longer. The layouts of JIS X 0213 do without the forms of the
backslash or the tilde that the set itself has. -/
def pair (set : Multibyte) (a b : Nat) : List Char :=
  match set with
  | shiftJis => single ((unshifted? a b).bind jisX0208.char?)
  | windows932 =>
    single (((CodeTable.windows932.char? (a * 256 + b)).or
      ((unshifted? a b).bind jisX0208.char?)).or
      (if within 0xf0 0xf9 a then
        (unshifted? a b).map fun code =>
          Char.ofNat (0xe000 + (code / 256 - 0x7f) * 94 + code % 256 - 0x21)
      else none))
  | shiftJis2004 later =>
    match unshifted? a b with
    | none => []
    | some code =>
      if code == 0x2140 then ['\\']
      else if code < 0x7f00 then plane1 later code
      else single (plane2 later (secondPlane code))
  | eucJp =>
    if a == 0x8e then single (katakana? b)
    else single (jisX0208.char? (highCode a b))
  | eucJis2004 later =>
    if a == 0x8e then single (katakana? b)
    else if highCode a b == 0x2232 then ['～']
    else plane1 later (highCode a b)
  | gb2312 => single (CodeTable.gb2312.char? (highCode a b))
  | gbk => single (gbkChar? a b)
  | gb18030 =>
    single (((gb18030Signs.char? (a * 256 + b)).or (userChar? a b)).or
      (gbkChar? a b))
  | big5 => single (CodeTable.big5.char? (a * 256 + b))
  | windows950 =>
    single ((CodeTable.windows950.char? (a * 256 + b)).or
      (CodeTable.big5.char? (a * 256 + b)))
  | big5Hkscs => hongKong a b
  | eucKr => single (ksX1001.char? (highCode a b))
  | windows949 =>
    single ((ksX1001.char? (highCode a b)).or
      ((rareSyllable? a b).map fun n =>
        Char.ofNat (untaken 0xac00 n commonSyllables)))
  | johab => single (johabChar? a b)

/-- How many octets follow the two in a sequence of more than two. -/
def further? (set : Multibyte) (a b : Nat) : Option Nat :=
  match set with
  | eucJp | eucJis2004 _ => if a == 0x8f then some 1 else none
  | gb18030 => if within 0x30 0x39 b then some 2 else none
  | eucKr => if a == 0xa4 && b == filler then some 6 else none
  | _ => none

/-- The character of two octets and those that follow them. -/
def long? (set : Multibyte) (a b : Nat) (more : List Nat) : Option Char :=
  match set, more with
  | eucJp, [c] => jisX0212.char? (highCode b c)
  | eucJis2004 later, [c] => supplement later (highCode b c)
  | gb18030, [c, d] => fourChar? a b c d
  | eucKr, octets => spelled? octets
  | _, _ => none

/-- What octets begin with, `none` standing for octets that are no
character, and the octets after it. -/
def first (set : Multibyte) (o : UInt8) (rest : List UInt8) :
    List (Option Char) × List UInt8 :=
  let a := o.toNat
  match alone? set a, rest with
  | some c, _ => ([some c], rest)
  | none, [] => ([none], [])
  | none, second :: more =>
    let b := second.toNat
    match further? set a b with
    | none =>
      match pair set a b with
      | [] => ([none], if set.isLostPair a b then more else rest)
      | cs => (cs.map some, more)
    | some n =>
      let taken := more.take n
      if taken.length < n then ([none], [])
      else
        match long? set a b (taken.map UInt8.toNat) with
        | none => ([none], rest)
        | some c => ([some c], more.drop n)

/-- The characters of octets; the first argument bounds their number. -/
def readAll (set : Multibyte) : Nat → List UInt8 → List (Option Char)
  | 0, _ => []
  | _ + 1, [] => []
  | fuel + 1, o :: rest =>
    let (chars, left) := set.first o rest
    chars ++ readAll set fuel left

/-- The characters of octets, with `none` for octets that are none. -/
def read (set : Multibyte) (octets : List UInt8) : List (Option Char) :=
  set.readAll octets.length octets

end Multibyte

end Toolsmith
