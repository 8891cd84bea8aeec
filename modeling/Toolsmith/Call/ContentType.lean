/-
The character set that a content type names. A content type is a type and
parameters behind semicolons; a parameter may be quoted, cut into numbered
parts, and written with a character set of its own.
-/
import Toolsmith.Encoding.CharsetName
import Toolsmith.Text.Case
import Toolsmith.Text.Lines
import Toolsmith.Text.Search

namespace Toolsmith.ContentType

open Text

-- =============================================================== parts

/-- The text up to a semicolon outside quotes, and the text from there on;
the flag says whether a quote is open, and `last` is the character in front.
A quote behind a backslash neither opens nor closes. -/
def part (isQuoted : Bool) (last : Char) :
    List Char → List Char × List Char
  | [] => ([], [])
  | c :: rest =>
    if c == ';' && !isQuoted then ([], c :: rest)
    else
      let turns := c == '"' && last != '\\'
      let (taken, left) := part (isQuoted != turns) c rest
      (c :: taken, left)

/-- The texts between semicolons; the first argument bounds their number. -/
def parts : Nat → List Char → List (List Char)
  | 0, _ => []
  | fuel + 1, s =>
    let (taken, left) := part false ' ' s
    match left with
    | [] => [taken]
    | _ :: more => taken :: parts fuel more

/-- A part as a name and a value, which is empty without an equals sign. -/
def pair (s : List Char) : List Char × List Char :=
  let name := s.takeWhile (· != '=')
  if name.length == s.length then (strip s, [])
  else (lower (strip name), strip (s.drop (name.length + 1)))

/-- A value without the quotes or the angles around it. -/
def unquote (s : List Char) : List Char :=
  let inner := (s.drop 1).dropLast
  if s.length ≤ 1 then s
  else if s.head? == some '"' && s.getLast? == some '"' then
    replace ['\\', '"'] ['"'] (replace ['\\', '\\'] ['\\'] inner)
  else if s.head? == some '<' && s.getLast? == some '>' then inner
  else s

/-- A value as it stands between quotes. -/
def quote (s : List Char) : List Char :=
  replace ['"'] ['\\', '"'] (replace ['\\'] ['\\', '\\'] s)

-- ====================================================== numbered parts

/-- A part of the value of a parameter: its number if it has one, its text,
and whether that is written with percent signs. -/
structure Portion where
  number : Option Nat
  text : List Char
  isEncoded : Bool
  deriving DecidableEq, Repr

/-- The name and the number in the name of a portion. -/
def numbered? (name : List Char) : Option (List Char × Option Nat) :=
  let word := name.takeWhile isNameChar
  if word.isEmpty then none
  else
    match name.drop word.length with
    | '*' :: rest =>
      let digits := rest.takeWhile isAsciiDigit
      let number := digits.filterMap digitValue?
      match digits, rest.drop digits.length with
      | [], [] => some (word, none)
      | _ :: _, [] | _ :: _, ['*'] =>
        some (word, some (number.foldl (fun n d => n * 10 + d) 0))
      | _, _ => none
    | _ => none

/-- The order of portions of one parameter: by number, by text, and those
with percent signs last. -/
def Portion.isBefore (a b : Portion) : Bool :=
  let m := a.number.getD 0
  let n := b.number.getD 0
  let s := String.ofList a.text
  let t := String.ofList b.text
  m < n || (m == n && (s < t || (s == t && (!a.isEncoded || b.isEncoded))))

/-- Puts portions in order. Portions with a number and without one have no
order; where the first two such meet, the flag tells which has it. -/
def ordered (portions : List Portion) :
    Except ReadingFault (List Portion) :=
  let meeting := (portions.zip (portions.drop 1)).find? fun (a, b) =>
    a.number.isSome != b.number.isSome
  match meeting with
  | some (_, later) => .error (.unordered later.number.isSome)
  | none => .ok (portions.mergeSort Portion.isBefore)

/-- A text in which percent signs and two hexadecimal digits stand for
characters of Latin-1. -/
def unescape : List Char → List Char
  | '%' :: a :: b :: rest =>
    match hexValue? a, hexValue? b with
    | some m, some n => Char.ofNat (m * 16 + n) :: unescape rest
    | _, _ => '%' :: unescape (a :: b :: rest)
  | c :: rest => c :: unescape rest
  | [] => []

/-- The octets of a text, with escapes for what Latin-1 does not have. -/
def octets (s : List Char) : List UInt8 :=
  (s.flatMap fun c =>
    if c.toNat < 0x100 then [c]
    else if c.toNat < 0x10000 then '\\' :: 'u' :: hexText 4 c.toNat
    else '\\' :: 'U' :: hexText 8 c.toNat).map
    fun c => UInt8.ofNat c.toNat

/-- The value of portions in order. If one is written with percent signs, a
character set and a language may stand in front, behind apostrophes. -/
def joined (portions : List Portion) : List Char :=
  let text := quote (portions.flatMap fun p =>
    if p.isEncoded then unescape p.text else p.text)
  let plain (s : List Char) : List Char := unquote ('"' :: s ++ ['"'])
  if !portions.any (·.isEncoded) then plain text
  else
    match splitAt '\'' text with
    | name :: _ :: value :: more =>
      let written := plain (join ['\''] (value :: more))
      let set := if name.isEmpty then "us-ascii".toList else name
      match (Charset.named? set).bind (Charset.decode? (octets written)) with
      | some s => s
      | none => written
    | _ =>
      let written := plain text
      match Charset.decode? (octets written) .ascii with
      | some s => s
      | none => written

-- ============================================================= charset

/-- The name is that of the parameter for the character set. -/
def isCharset (name : List Char) : Bool := lower name == "charset".toList

/-- The portions of a parameter among names and values. -/
def portions (given : List (List Char × List Char)) :
    List (List Char × Portion) :=
  given.filterMap fun (name, value) =>
    (numbered? name).map fun (word, number) =>
      (word, ⟨number, unquote value, name.getLast? == some '*'⟩)

/-- The value of the parameter for the character set. What stands in the
place of the type counts as well. A whole value goes before one in portions,
and all portions have to have an order. -/
def charset? (contentType : List Char) :
    Except ReadingFault (Option (List Char)) := do
  let given := (parts (contentType.length + 1) contentType).map pair
  let rest := given.drop 1
  let cut := portions rest
  let names := (cut.map (·.1)).eraseDups
  let values ← names.mapM fun name => do
    let own := (cut.filter (·.1 == name)).map (·.2)
    return (name, joined (← ordered own))
  let whole := rest.filter fun (name, _) => (numbered? name).isNone
  let requoted := whole.map fun (name, value) =>
    (name, unquote ('"' :: quote (unquote value) ++ ['"']))
  let first := (given.take 1).map fun (name, value) => (name, unquote value)
  return ((first ++ requoted ++ values).find? (isCharset ·.1)).map (·.2)

/-- The character set that a content type names, if it is known, and UTF-8
otherwise. -/
def charset (contentType : Option String) : Except ReadingFault Charset := do
  let some text := contentType | return .utf8
  let name ← charset? text.toList
  return ((name.filter (·.all (·.toNat < 0x80))).bind
    Charset.named?).getD .utf8

end Toolsmith.ContentType
