/-
Text in octets with backslash escapes. What is no escape is a character of
Latin-1.
-/
import Toolsmith.Text.Name
import Toolsmith.Text.Surrogate

namespace Toolsmith.Escaped

open Text

/-- What a backslash and one letter stand for. -/
def letter? (o : Nat) : Option (List (Option Char)) :=
  let itself (c : Char) : Option (List (Option Char)) := some [some c]
  match Char.ofNat o with
  | '\n' => some []
  | '\\' => itself '\\'
  | '\'' => itself '\''
  | '"' => itself '"'
  | 'a' => itself '\x07'
  | 'b' => itself '\x08'
  | 'f' => itself '\x0c'
  | 'n' => itself '\n'
  | 'r' => itself '\r'
  | 't' => itself '\t'
  | 'v' => itself '\x0b'
  | _ => none

/-- How many hexadecimal digits follow a letter. -/
def width? (isRaw : Bool) (o : Nat) : Option Nat :=
  match Char.ofNat o with
  | 'x' => if isRaw then none else some 2
  | 'u' => some 4
  | 'U' => some 8
  | _ => none

/-- The value of a hexadecimal digit. -/
def hex? (o : Nat) : Option Nat :=
  if 0x30 ≤ o && o ≤ 0x39 then some (o - 0x30)
  else if 0x41 ≤ o && o ≤ 0x46 then some (o - 0x37)
  else if 0x61 ≤ o && o ≤ 0x66 then some (o - 0x57)
  else none

/-- Reads as many hexadecimal digits as there are up to a number: how many
are missing, the value, and the octets after them. -/
def digits : Nat → Nat → List Nat → Nat × Nat × List Nat
  | 0, n, rest => (0, n, rest)
  | count + 1, n, [] => (count + 1, n, [])
  | count + 1, n, o :: rest =>
    match hex? o with
    | some d => digits count (n * 16 + d) rest
    | none => (count + 1, n, o :: rest)

/-- The octet is an octal digit. -/
def isOctal (o : Nat) : Bool := 0x30 ≤ o && o ≤ 0x37

/-- The character of a name in braces, given what follows the letter for it,
and the octets after it. -/
def name : List Nat → Option Char × List Nat
  | 0x7b :: rest =>
    let inner := rest.takeWhile (· != 0x7d)
    if inner.isEmpty || inner.length == rest.length then
      (none, rest.drop inner.length)
    else (named? (inner.map Char.ofNat), rest.drop (inner.length + 1))
  | rest => (none, rest)

/-- What a backslash and the octets after it stand for, and the octets after
that. -/
def escape (isRaw : Bool) (o : Nat) (rest : List Nat) :
    List (Option Char) × List Nat :=
  match width? isRaw o with
  | some width =>
    let (missing, n, left) := digits width 0 rest
    if 0 < missing || 0x10ffff < n then ([none], left)
    else ([some (ofCodePoint n)], left)
  | none =>
    let plain := ([some '\\', some (Char.ofNat o)], rest)
    if isRaw then plain
    else
      match letter? o with
      | some cs => (cs, rest)
      | none =>
        if isOctal o then
          let more := (rest.take 2).takeWhile isOctal
          let n := (o :: more).foldl (fun n d => n * 8 + (d - 0x30)) 0
          ([some (Char.ofNat n)], rest.drop more.length)
        else if o == 0x4e then
          let (c, left) := name rest
          ([c], left)
        else plain

/-- The characters of octets; the first argument bounds their number. The
raw form knows the escapes for code points only, and a backslash at its end
is one. -/
def read (isRaw : Bool) : Nat → List Nat → List (Option Char)
  | 0, _ => []
  | _ + 1, [] => []
  | fuel + 1, o :: rest =>
    if o != 0x5c then some (Char.ofNat o) :: read isRaw fuel rest
    else
      match rest with
      | [] => [if isRaw then some '\\' else none]
      | next :: more =>
        let (chars, left) := escape isRaw next more
        chars ++ read isRaw fuel left

end Toolsmith.Escaped
