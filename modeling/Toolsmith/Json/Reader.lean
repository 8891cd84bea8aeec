/-
Reading JSON text. Beyond the standard the words `NaN`, `Infinity` and
`-Infinity` are numbers. A repeated key keeps its first place and takes the
last value. A text that is no JSON is refused with a cause and the place
where the reader stood.
-/
import Toolsmith.Number.Read
import Toolsmith.Text.Surrogate
import Toolsmith.Value.Basic

namespace Toolsmith.Json

open Text

/-- Why a text is no JSON. -/
inductive Cause where
  | byteOrderMark
  | value
  | extraData
  | propertyName
  | colon
  | comma
  | unterminatedString
  | controlCharacter
  | escape
  | unicodeEscape
  deriving DecidableEq, Repr

/-- The wording of a cause. -/
def Cause.message : Cause → String
  | byteOrderMark => "Unexpected UTF-8 BOM (decode using utf-8-sig)"
  | value => "Expecting value"
  | extraData => "Extra data"
  | propertyName => "Expecting property name enclosed in double quotes"
  | colon => "Expecting ':' delimiter"
  | comma => "Expecting ',' delimiter"
  | unterminatedString => "Unterminated string starting at"
  | controlCharacter => "Invalid control character at"
  | escape => "Invalid \\escape"
  | unicodeEscape => "Invalid \\uXXXX escape"

/-- What can go wrong while reading: the text is malformed at an offset, an
integer has more digits than are read, or lists and mappings stand in one
another deeper than is read. -/
inductive Fault where
  | malformed (cause : Cause) (offset : Nat)
  | integerTooLong (digits : Nat)
  | tooDeep (isMapping : Bool)
  deriving DecidableEq, Repr

/-- A place in a text: the characters to come and how many went before. The
number of characters to come is below `limit`, which is the same everywhere
in a text. -/
structure Cursor where
  rest : List Char
  offset : Nat
  limit : Nat

namespace Cursor

/-- The place at the start of a text. -/
def start (s : List Char) : Cursor := ⟨s, 0, s.length + 1⟩

/-- The place `n` characters later. -/
def forward (c : Cursor) (n : Nat) : Cursor :=
  ⟨c.rest.drop n, c.offset + n, c.limit⟩

/-- The place after the spaces, tabs and line ends. -/
def skipSpace (c : Cursor) : Cursor :=
  let space := c.rest.takeWhile fun x =>
    x == ' ' || x == '\t' || x == '\n' || x == '\r'
  c.forward space.length

/-- A refusal at this place. -/
def refuse {α : Type} (c : Cursor) (cause : Cause) : Except Fault α :=
  .error (.malformed cause c.offset)

end Cursor

-- ============================================================= strings

/-- The character that a short escape stands for. -/
def shortEscape? : Char → Option Char
  | '"' => some '"'
  | '\\' => some '\\'
  | '/' => some '/'
  | 'b' => some '\x08'
  | 'f' => some '\x0c'
  | 'n' => some '\n'
  | 'r' => some '\r'
  | 't' => some '\t'
  | _ => none

/-- The UTF-16 unit that four hexadecimal digits stand for, and the rest.
A string ends with a quote, so something has to follow the digits. -/
def unit? : List Char → Option (Nat × List Char)
  | a :: b :: c :: d :: next :: rest => do
    let digits ← [a, b, c, d].mapM hexValue?
    return (Number.ofDigits 16 digits, next :: rest)
  | _ => none

/-- The characters of a string from a place behind its opening quote, which
stood at `opening`, and the place behind the closing quote. -/
def readString (opening : Nat) : Nat → Cursor →
    Except Fault (List Char × Cursor)
  | 0, _ => .error (.malformed .unterminatedString opening)
  | fuel + 1, cur =>
    match cur.rest with
    | [] => .error (.malformed .unterminatedString opening)
    | '"' :: _ => .ok ([], cur.forward 1)
    | '\\' :: [] => .error (.malformed .unterminatedString opening)
    | '\\' :: 'u' :: hex =>
      match unit? hex with
      | none => (cur.forward 1).refuse .unicodeEscape
      | some (high, more) => do
        match isHighSurrogate high, more with
        | true, '\\' :: 'u' :: hex₂ =>
          if (hex₂.take 5).length < 5 then
            let (s, next) ← readString opening fuel (cur.forward 6)
            return (ofCodePoint high :: s, next)
          else
            match unit? hex₂ with
            | none => (cur.forward 7).refuse .unicodeEscape
            | some (low, _) =>
              if isLowSurrogate low then
                let (s, next) ← readString opening fuel (cur.forward 12)
                return (ofCodePoint (pairValue high low) :: s, next)
              else
                let (s, next) ← readString opening fuel (cur.forward 6)
                return (ofCodePoint high :: s, next)
        | _, _ =>
          let (s, next) ← readString opening fuel (cur.forward 6)
          return (ofCodePoint high :: s, next)
    | '\\' :: e :: _ =>
      match shortEscape? e with
      | none => cur.refuse .escape
      | some c => do
        let (s, next) ← readString opening fuel (cur.forward 2)
        return (c :: s, next)
    | c :: _ =>
      if c.toNat < 0x20 then cur.refuse .controlCharacter
      else do
        let (s, next) ← readString opening fuel (cur.forward 1)
        return (c :: s, next)

-- ============================================================= numbers

/-- The digits at the start of a text. -/
def digitsOf (s : List Char) : List Char := s.takeWhile isAsciiDigit

/-- The length of a fraction at the start of a text, zero if there is
none. -/
def fractionLength : List Char → Nat
  | '.' :: rest =>
    let n := (digitsOf rest).length
    if n == 0 then 0 else n + 1
  | _ => 0

/-- The length of an exponent at the start of a text, zero if there is
none. -/
def exponentLength : List Char → Nat
  | c :: rest =>
    if c == 'e' || c == 'E' then
      let sign :=
        if rest.head? == some '-' || rest.head? == some '+' then 1 else 0
      let n := (digitsOf (rest.drop sign)).length
      if n == 0 then 0 else n + 1 + sign
    else 0
  | [] => 0

/-- A number: an integer unless it has a fraction or an exponent. -/
def readNumber (cur : Cursor) : Except Fault (Value × Cursor) :=
  let sign := if cur.rest.head? == some '-' then 1 else 0
  let body := cur.rest.drop sign
  let whole := if body.head? == some '0' then ['0'] else digitsOf body
  if whole.isEmpty then cur.refuse .value
  else
    let fraction := fractionLength (body.drop whole.length)
    let tail := exponentLength (body.drop (whole.length + fraction))
    let size := sign + whole.length + fraction + tail
    let text := cur.rest.take size
    let next := cur.forward size
    if fraction == 0 && tail == 0 then
      match Number.int? 10 text with
      | .ok n => .ok (.int n, next)
      | .error _ => .error (.integerTooLong whole.length)
    else
      match Number.float? text with
      | some x => .ok (.float x, next)
      | none => cur.refuse .value

-- ============================================================== values

/-- The words that stand for a value. -/
def words : List (String × Value) :=
  [("null", .null), ("true", .bool true), ("false", .bool false),
   ("NaN", .float .nan), ("Infinity", .float (.infinity false)),
   ("-Infinity", .float (.infinity true))]

/-- A word or a number. -/
def readScalar (cur : Cursor) : Except Fault (Value × Cursor) :=
  match words.find? fun (w, _) => w.toList.isPrefixOf cur.rest with
  | some (w, v) => .ok (v, cur.forward w.length)
  | none => readNumber cur

/-- How deep lists and mappings may stand in one another. -/
def depthLimit : Nat := 980

mutual

/-- A value, from a place without space in front of it. The first argument
bounds the length of the text, the second how deep it goes. -/
def readValue : Nat → Nat → Cursor → Except Fault (Value × Cursor)
  | 0, _, cur => cur.refuse .value
  | fuel + 1, room, cur =>
    match cur.rest with
    | '"' :: _ => do
      let (s, next) ← readString cur.offset cur.limit (cur.forward 1)
      return (.text (String.ofList s), next)
    | '[' :: _ =>
      let inside := (cur.forward 1).skipSpace
      if room == 0 then .error (.tooDeep false)
      else if inside.rest.head? == some ']' then
        .ok (.list [], inside.forward 1)
      else do
        let (items, next) ← readItems fuel (room - 1) inside
        return (.list items, next)
    | '\x7b' :: _ =>
      let inside := (cur.forward 1).skipSpace
      if room == 0 then .error (.tooDeep true)
      else if inside.rest.head? == some '\x7d' then
        .ok (.map [], inside.forward 1)
      else do
        let (entries, next) ← readEntries fuel (room - 1) inside
        return (.ofEntries entries, next)
    | _ => readScalar cur

/-- The items of a list up to its closing bracket, at least one. -/
def readItems : Nat → Nat → Cursor → Except Fault (List Value × Cursor)
  | 0, _, cur => cur.refuse .value
  | fuel + 1, room, cur => do
    let (v, next) ← readValue fuel room cur
    let next := next.skipSpace
    match next.rest.head? with
    | some ']' => return ([v], next.forward 1)
    | some ',' =>
      let (more, last) ← readItems fuel room (next.forward 1).skipSpace
      return (v :: more, last)
    | _ => next.refuse .comma

/-- The entries of a mapping up to its closing brace, at least one. -/
def readEntries : Nat → Nat → Cursor →
    Except Fault (List (Value × Value) × Cursor)
  | 0, _, cur => cur.refuse .propertyName
  | fuel + 1, room, cur =>
    match cur.rest with
    | '"' :: _ => do
      let (s, next) ← readString cur.offset cur.limit (cur.forward 1)
      let next := next.skipSpace
      if next.rest.head? != some ':' then next.refuse .colon
      else
        let (v, next) ← readValue fuel room (next.forward 1).skipSpace
        let next := next.skipSpace
        let entry := (Value.text (String.ofList s), v)
        match next.rest.head? with
        | some '\x7d' => return ([entry], next.forward 1)
        | some ',' =>
          let (more, last) ← readEntries fuel room (next.forward 1).skipSpace
          return (entry :: more, last)
        | _ => next.refuse .comma
    | _ => cur.refuse .propertyName

end

/-- The value of a JSON text. -/
def read (s : List Char) : Except Fault Value :=
  if s.head? == some '\ufeff' then .error (.malformed .byteOrderMark 0)
  else do
    let (v, next) ←
      readValue (2 * s.length + 2) depthLimit (Cursor.start s).skipSpace
    let next := next.skipSpace
    if next.rest.isEmpty then return v else next.refuse .extraData

-- ============================================================ messages

/-- A place as line, column and offset, the first two counted from one. -/
def placeText (s : List Char) (offset : Nat) : String :=
  let before := s.take offset
  let line := before.count '\n' + 1
  let column := (before.reverse.takeWhile (· != '\n')).length + 1
  s!"line {line} column {column} (char {offset})"

/-- The wording of a malformed place of a text. -/
def malformedMessage (s : List Char) (cause : Cause) (offset : Nat) :
    String :=
  s!"{cause.message}: {placeText s offset}"

/-- The wording for lists or mappings that go too deep. -/
def tooDeepMessage (isMapping : Bool) : String :=
  let kind := if isMapping then "object" else "array"
  s!"maximum recursion depth exceeded while decoding a JSON {kind} "
    ++ "from a unicode string"

end Toolsmith.Json
