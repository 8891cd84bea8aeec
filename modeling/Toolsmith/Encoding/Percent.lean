/-
Text inside a URL. Letters, digits and a few marks stand for themselves;
every other octet of the UTF-8 form is a percent sign and two hexadecimal
digits.
-/
import Toolsmith.Encoding.Utf8
import Toolsmith.Text.Class

namespace Toolsmith.Percent

open Text

/-- Characters that a component of a URL holds as they are. -/
def isPlain (c : Char) : Bool :=
  isAsciiLetter c || isAsciiDigit c || "_.-~!*'()".toList.contains c

/-- The upper-case hexadecimal digit of a value below sixteen. -/
def digit (n : Nat) : Char :=
  if n < 10 then Char.ofNat (48 + n) else Char.ofNat (55 + n)

/-- An octet as a plain character or as a triple. -/
def encodeOctet (o : UInt8) : List Char :=
  let c := Char.ofNat o.toNat
  if isPlain c then [c]
  else ['%', digit (o.toNat / 16), digit (o.toNat % 16)]

/-- A text as a component of a URL. -/
def encode (s : List Char) : List Char :=
  (Utf8.encode s).flatMap encodeOctet

/-- A text without lone surrogates as a component of a URL. -/
def encode? (s : List Char) : Except Lone (List Char) :=
  (Utf8.encode? s).map (·.flatMap encodeOctet)

end Toolsmith.Percent
