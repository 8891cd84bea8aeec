/-
Characters as octets in UTF-8, and back. The reading direction names every
longest run of octets that could still have become a character, so that a
lenient reader puts one replacement where such a run breaks off.
-/
import Toolsmith.Text.Surrogate

namespace Toolsmith.Utf8

open Text (Lone)

/-- The octets of a code point. -/
def encodeNat (n : Nat) : List UInt8 :=
  if n < 0x80 then [UInt8.ofNat n]
  else if n < 0x800 then
    [UInt8.ofNat (0xc0 + n / 0x40), UInt8.ofNat (0x80 + n % 0x40)]
  else if n < 0x10000 then
    [UInt8.ofNat (0xe0 + n / 0x1000), UInt8.ofNat (0x80 + n / 0x40 % 0x40),
     UInt8.ofNat (0x80 + n % 0x40)]
  else
    [UInt8.ofNat (0xf0 + n / 0x40000),
     UInt8.ofNat (0x80 + n / 0x1000 % 0x40),
     UInt8.ofNat (0x80 + n / 0x40 % 0x40), UInt8.ofNat (0x80 + n % 0x40)]

/-- The octets of a text. -/
def encode (s : List Char) : List UInt8 :=
  s.flatMap fun c => encodeNat c.toNat

/-- The octets of a text without lone surrogates, which have none. -/
def encode? (s : List Char) : Except Lone (List UInt8) :=
  match Lone.find? s with
  | some lone => .error lone
  | none => .ok (encode s)

/-- The octet lies between the two bounds. -/
def within (low high : Nat) (o : UInt8) : Bool :=
  low ≤ o.toNat && o.toNat ≤ high

/-- The bounds of the second octet after a first one, and how many octets
follow the first one, if it can begin a longer sequence. The flag says
whether surrogates count as characters. -/
def lead? (withLone : Bool) (o : UInt8) : Option (Nat × Nat × Nat) :=
  if within 0xc2 0xdf o then some (0x80, 0xbf, 1)
  else if o == 0xe0 then some (0xa0, 0xbf, 2)
  else if o == 0xed && !withLone then some (0x80, 0x9f, 2)
  else if within 0xe1 0xef o then some (0x80, 0xbf, 2)
  else if o == 0xf0 then some (0x90, 0xbf, 3)
  else if o == 0xf4 then some (0x80, 0x8f, 3)
  else if within 0xf1 0xf3 o then some (0x80, 0xbf, 3)
  else none

/-- The bits that the first octet of a sequence of the given length keeps. -/
def leadBits (o : UInt8) (following : Nat) : Nat :=
  o.toNat % (0x40 >>> following)

/-- Reads up to `count` continuation octets onto the bits collected so far:
the bits, how many octets are missing, and the octets that follow. -/
def continuation : Nat → Nat → List UInt8 → Nat × Nat × List UInt8
  | 0, bits, rest => (bits, 0, rest)
  | count + 1, bits, o :: rest =>
    if within 0x80 0xbf o then
      continuation count (bits * 0x40 + o.toNat % 0x40) rest
    else (bits, count + 1, o :: rest)
  | count + 1, bits, [] => (bits, count + 1, [])

/-- The first character, or `none` for a run that is no character, and what
follows. -/
def unit (withLone : Bool) (o : UInt8) (rest : List UInt8) :
    Option Char × List UInt8 :=
  if o.toNat < 0x80 then (some (Char.ofNat o.toNat), rest)
  else
    match lead? withLone o, rest with
    | some (low, high, following), second :: more =>
      if within low high second then
        let bits := leadBits o following * 0x40 + second.toNat % 0x40
        match continuation (following - 1) bits more with
        | (n, 0, left) => (some (Text.ofCodePoint n), left)
        | (_, _, left) => (none, left)
      else (none, second :: more)
    | _, _ => (none, rest)

/-- The characters of octets, with `none` for every run that is none; the
number bounds that of the octets. -/
def units (withLone : Bool) : Nat → List UInt8 → List (Option Char)
  | 0, _ => []
  | _ + 1, [] => []
  | fuel + 1, o :: rest =>
    let (c, left) := unit withLone o rest
    c :: units withLone fuel left

/-- The characters of octets, with `none` for every run that is none. -/
def read (octets : List UInt8) : List (Option Char) :=
  units false octets.length octets

/-- The text of octets, if they are UTF-8. -/
def decode? (octets : List UInt8) : Option (List Char) :=
  (read octets).mapM id

/-- The text of octets, if they are UTF-8 but for surrogates, which are kept
alone. -/
def decodeLone? (octets : List UInt8) : Option (List Char) :=
  (units true octets.length octets).mapM id

end Toolsmith.Utf8
