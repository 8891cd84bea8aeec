/-
Octets as text: the character sets that a name may stand for, and how the
character set of JSON octets is recognised.
-/
import Toolsmith.Encoding.Codepage
import Toolsmith.Encoding.Escaped
import Toolsmith.Encoding.Hz
import Toolsmith.Encoding.Iso2022
import Toolsmith.Encoding.Multibyte
import Toolsmith.Encoding.Punycode
import Toolsmith.Encoding.Units
import Toolsmith.Encoding.Utf7
import Toolsmith.Encoding.Utf8

namespace Toolsmith

/-- Why octets cannot be read as text at all. -/
inductive ReadingFault where
  /-- The name is that of a way to write octets as other octets. -/
  | ofOctets
  /-- The name is that of a way to write texts as other texts. -/
  | ofTexts
  /-- The character set allows no replacement characters. -/
  | exact
  /-- The character set is there to have nothing. -/
  | undefined
  /-- The order of the octets in units of so many bits is not marked. -/
  | unmarked (bits : Nat)
  /-- An octet at a place is not ASCII. -/
  | foreign (octet place : Nat)
  /-- A long escape sequence does not end. -/
  | unfinished
  /-- The parts of a parameter are numbered in part. -/
  | unordered (first : Bool)
  deriving DecidableEq, Repr

/-- The wording of a fault that octets cannot be read for. -/
def ReadingFault.message : ReadingFault → String
  | ofOctets => ""
  | ofTexts =>
    "descriptor 'translate' for 'str' objects doesn't apply to a "
      ++ "'bytes' object"
  | exact => "Unsupported error handling replace"
  | undefined => "undefined encoding"
  | unmarked bits => s!"UTF-{bits} stream does not start with BOM"
  | foreign octet place =>
    "'ascii' codec can't decode byte 0x"
      ++ String.ofList (Text.hexText 2 octet)
      ++ s!" in position {place}: ordinal not in range(128)"
  | unfinished => "pending buffer overflow"
  | unordered first =>
    let (a, b) := if first then ("int", "NoneType") else ("NoneType", "int")
    s!"'<' not supported between instances of '{a}' and '{b}'"

/-- What the name of a character set can stand for. Sixteen-bit and
thirty-two-bit units without an order are marked with it. -/
inductive Charset where
  | utf8
  | utf8Marked
  | utf7
  | utf16 (order : Option ByteOrder)
  | utf32 (order : Option ByteOrder)
  | ascii
  | latin1
  | page (p : Codepage)
  | multibyte (set : Multibyte)
  | iso2022 (variant : Iso2022)
  | hz
  | escaped (isRaw : Bool)
  | punycode
  | unusable (fault : ReadingFault)
  deriving DecidableEq, Repr

namespace Charset

/-- The octets of a byte order mark in UTF-8. -/
def mark8 : List UInt8 := [0xef, 0xbb, 0xbf]

/-- The order that a mark gives sixteen-bit units, and the octets behind
it. -/
def marked16? : List UInt8 → Option (ByteOrder × List UInt8)
  | 0xfe :: 0xff :: rest => some (.bigEndian, rest)
  | 0xff :: 0xfe :: rest => some (.littleEndian, rest)
  | _ => none

/-- The order that a mark gives thirty-two-bit units, and the octets behind
it. -/
def marked32? : List UInt8 → Option (ByteOrder × List UInt8)
  | 0x00 :: 0x00 :: 0xfe :: 0xff :: rest => some (.bigEndian, rest)
  | 0xff :: 0xfe :: 0x00 :: 0x00 :: rest => some (.littleEndian, rest)
  | _ => none

/-- The characters of octets, with `none` for octets that are none. Octets
too few for a unit need no mark. -/
def read (octets : List UInt8) :
    Charset → Except ReadingFault (List (Option Char))
  | utf8 => .ok (Utf8.read octets)
  | utf8Marked =>
    .ok (if octets.isPrefixOf mark8 then []
      else if mark8.isPrefixOf octets then Utf8.read (octets.drop 3)
      else Utf8.read octets)
  | utf7 => .ok (Utf7.read none octets)
  | utf16 (some order) => .ok (ByteOrder.chars (order.points16 octets))
  | utf16 none =>
    match marked16? octets with
    | some (order, rest) => .ok (ByteOrder.chars (order.points16 rest))
    | none =>
      if octets.length < 2 then .ok (octets.map fun _ => none)
      else .error (.unmarked 16)
  | utf32 (some order) => .ok (ByteOrder.chars (order.points32 octets))
  | utf32 none =>
    match marked32? octets with
    | some (order, rest) => .ok (ByteOrder.chars (order.points32 rest))
    | none =>
      if octets.length < 4 then
        .ok (if octets.isEmpty then [] else [none])
      else .error (.unmarked 32)
  | ascii =>
    .ok (octets.map fun o =>
      if o.toNat < 0x80 then some (Char.ofNat o.toNat) else none)
  | latin1 => .ok (octets.map fun o => some (Char.ofNat o.toNat))
  | page p => .ok (p.read octets)
  | multibyte set => .ok (set.read octets)
  | iso2022 variant =>
    match variant.read octets with
    | some chars => .ok chars
    | none => .error .unfinished
  | hz => .ok (Hz.read false octets)
  | escaped isRaw =>
    .ok (Escaped.read isRaw octets.length (octets.map UInt8.toNat))
  | punycode =>
    let numbers := octets.map UInt8.toNat
    match Punycode.foreign? numbers with
    | some (octet, place) => .error (.foreign octet place)
    | none => .ok ((Punycode.decode numbers).map some)
  | unusable fault => .error fault

/-- The text of octets, with replacement characters. -/
def decode (octets : List UInt8) (set : Charset) :
    Except ReadingFault (List Char) :=
  (set.read octets).map fun chars => chars.map (·.getD '\ufffd')

/-- The text of octets, if all of them are characters. Units without a mark
have the lesser octet first. -/
def decode? (octets : List UInt8) (set : Charset) : Option (List Char) :=
  let whole : Charset :=
    match set with
    | utf16 none =>
      if (marked16? octets).isSome then set else utf16 (some .littleEndian)
    | utf32 none =>
      if (marked32? octets).isSome then set else utf32 (some .littleEndian)
    | _ => set
  match whole.read octets with
  | .ok chars => chars.mapM id
  | .error _ => none

-- ================================================================ JSON

/-- The text of JSON octets, if they are text. A mark tells the units and
their order; without one the zeros among the first octets do. Surrogates are
kept alone. -/
def decodeJson? (octets : List UInt8) : Option (List Char) :=
  let wide (order : ByteOrder) (s : List UInt8) : Option (List Char) :=
    ByteOrder.text? (order.points32 s)
  let narrow (order : ByteOrder) (s : List UInt8) : Option (List Char) :=
    ByteOrder.text? (order.points16 s)
  match marked32? octets, marked16? octets with
  | some (order, rest), _ => wide order rest
  | none, some (order, rest) => narrow order rest
  | none, none =>
    match octets with
    | 0xef :: 0xbb :: 0xbf :: rest => Utf8.decodeLone? rest
    | a :: b :: c :: d :: _ =>
      if a == 0 then
        if b != 0 then narrow .bigEndian octets else wide .bigEndian octets
      else if b == 0 then
        if c != 0 || d != 0 then narrow .littleEndian octets
        else wide .littleEndian octets
      else Utf8.decodeLone? octets
    | [a, b] =>
      if a == 0 then narrow .bigEndian octets
      else if b == 0 then narrow .littleEndian octets
      else Utf8.decodeLone? octets
    | _ => Utf8.decodeLone? octets

end Charset

end Toolsmith
