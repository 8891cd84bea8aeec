/-
Octets as text over the base64 alphabet. Writing pads to whole groups of
four; reading skips every character outside the alphabet and stops at a
padding that completes a group.
-/
import Toolsmith.Text.Class

namespace Toolsmith.Base64

/-- The character of a value below 64. -/
def symbol (n : Nat) : Char :=
  if n < 26 then Char.ofNat (65 + n)
  else if n < 52 then Char.ofNat (71 + n)
  else if n < 62 then Char.ofNat (n - 4)
  else if n == 62 then '+' else '/'

/-- The value of a character of the alphabet. -/
def value? (c : Char) : Option Nat :=
  if 'A' ≤ c && c ≤ 'Z' then some (c.toNat - 65)
  else if 'a' ≤ c && c ≤ 'z' then some (c.toNat - 71)
  else if Text.isAsciiDigit c then some (c.toNat + 4)
  else if c == '+' then some 62
  else if c == '/' then some 63
  else none

/-- Three octets become four characters; a shorter last group is padded. -/
def encode : List UInt8 → List Char
  | [] => []
  | [a] =>
    let n := a.toNat * 16
    [symbol (n / 64), symbol (n % 64), '=', '=']
  | [a, b] =>
    let n := (a.toNat * 256 + b.toNat) * 4
    [symbol (n / 4096), symbol (n / 64 % 64), symbol (n % 64), '=']
  | a :: b :: c :: rest =>
    let n := (a.toNat * 256 + b.toNat) * 256 + c.toNat
    symbol (n / 262144) :: symbol (n / 4096 % 64) :: symbol (n / 64 % 64)
      :: symbol (n % 64) :: encode rest

/-- Reads from a position in a group of four: `place` characters of the
group are read, `left` holds their bits that are not yet in an octet, and
`pads` paddings stand since the last of them. -/
def decodeFrom (place left pads : Nat) :
    List Char → Option (List UInt8)
  | [] => if place == 0 then some [] else none
  | '=' :: rest =>
    if 2 ≤ place then
      if 4 ≤ place + pads + 1 then some []
      else decodeFrom place left (pads + 1) rest
    else decodeFrom place left pads rest
  | c :: rest =>
    match value? c with
    | none => decodeFrom place left pads rest
    | some n =>
      match place with
      | 0 => decodeFrom 1 n 0 rest
      | 1 =>
        (decodeFrom 2 (n % 16) 0 rest).map
          (UInt8.ofNat (left * 4 + n / 16) :: ·)
      | 2 =>
        (decodeFrom 3 (n % 4) 0 rest).map
          (UInt8.ofNat (left * 16 + n / 4) :: ·)
      | _ =>
        (decodeFrom 0 0 0 rest).map (UInt8.ofNat (left * 64 + n) :: ·)

/-- The octets of a base64 text, if no group breaks off. -/
def decode? (s : List Char) : Option (List UInt8) := decodeFrom 0 0 0 s

end Toolsmith.Base64
