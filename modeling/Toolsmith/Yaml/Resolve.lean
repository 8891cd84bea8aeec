/-
The kinds of value that a tag names, and the kind of a plain scalar without
a tag, which its text alone decides.
-/
import Toolsmith.Text.Class
import Toolsmith.Text.Search

namespace Toolsmith.Yaml

open Text

/-- The kinds of value that tags name. -/
inductive Kind where
  | null
  | bool
  | int
  | float
  | binary
  | timestamp
  | omap
  | pairs
  | set
  | str
  | seq
  | map
  | merge
  | value
  | unknown
  deriving DecidableEq, Repr

/-- The beginning of the tags that name the kinds. -/
def kindSpace : List Char := "tag:yaml.org,2002:".toList

/-- The kinds by the words that end their tags. -/
def kindWords : List (String × Kind) :=
  [("null", .null), ("bool", .bool), ("int", .int), ("float", .float),
   ("binary", .binary), ("timestamp", .timestamp), ("omap", .omap),
   ("pairs", .pairs), ("set", .set), ("str", .str), ("seq", .seq),
   ("map", .map), ("merge", .merge), ("value", .value)]

/-- The kind that a tag names. -/
def Kind.ofTag (tag : List Char) : Kind :=
  match after? kindSpace tag with
  | some word =>
    ((kindWords.find? fun (w, _) => w.toList == word).map (·.2)).getD .unknown
  | none => .unknown

-- ============================================================= numbers

/-- A text without its sign. -/
def unsigned : List Char → List Char
  | '+' :: rest => rest
  | '-' :: rest => rest
  | s => s

/-- All characters of a text that is not empty are of a class. -/
def allOf (p : Char → Bool) (s : List Char) : Bool := !s.isEmpty && s.all p

/-- A digit or an underscore. -/
def isSpaced (p : Char → Bool) (c : Char) : Bool := p c || c == '_'

/-- An octal digit. -/
def isOctal (c : Char) : Bool := '0' ≤ c && c ≤ '7'

/-- A digit other than zero, then digits and underscores, up to the end. -/
def isPlainDecimal : List Char → Bool
  | [] => false
  | c :: rest =>
    isAsciiDigit c && c != '0' && rest.all (isSpaced isAsciiDigit)

/-- Parts of sixty, each after a colon: one digit, or two below sixty; at
least one part. What follows the last part is the answer. -/
def sixties? : Nat → List Char → Option (List Char)
  | 0, _ => none
  | fuel + 1, s =>
    let more (rest : List Char) : Option (List Char) :=
      match sixties? fuel rest with
      | some last => some last
      | none => some rest
    match s with
    | ':' :: a :: b :: rest =>
      if '0' ≤ a && a ≤ '5' && isAsciiDigit b then more rest
      else if isAsciiDigit a then more (b :: rest)
      else none
    | [':', a] => if isAsciiDigit a then some [] else none
    | _ => none

/-- An integer by its text. -/
def looksInt (s : List Char) : Bool :=
  let body := unsigned s
  match body with
  | '0' :: 'b' :: rest =>
    allOf (isSpaced fun c => c == '0' || c == '1') rest
  | '0' :: 'x' :: rest => allOf (isSpaced fun c => (hexValue? c).isSome) rest
  | ['0'] => true
  | '0' :: rest => allOf (isSpaced isOctal) rest
  | _ =>
    isPlainDecimal body
      || (isPlainDecimal (body.takeWhile (· != ':'))
          && sixties? body.length (body.dropWhile (· != ':')) == some [])

/-- Nothing, or an exponent with its sign. -/
def isSignedExponent : List Char → Bool
  | [] => true
  | e :: sign :: digits =>
    (e == 'e' || e == 'E') && (sign == '+' || sign == '-')
      && allOf isAsciiDigit digits
  | _ => false

/-- A double by its text. -/
def looksFloat (s : List Char) : Bool :=
  let body := unsigned s
  let spaced := isSpaced isAsciiDigit
  let whole := body.takeWhile spaced
  let rest := body.dropWhile spaced
  let startsDigit := (whole.head?.map isAsciiDigit).getD false
  let words := [".inf", ".Inf", ".INF"].map String.toList
  let absent := [".nan", ".NaN", ".NAN"].map String.toList
  words.contains body || absent.contains s
    || (match s with
        | '.' :: d :: more =>
          isAsciiDigit d && isSignedExponent (more.dropWhile spaced)
        | _ => false)
    || (startsDigit
        && (match rest with
            | '.' :: more => isSignedExponent (more.dropWhile spaced)
            | ':' :: _ =>
              (match sixties? rest.length rest with
               | some ('.' :: more) => more.all spaced
               | _ => false)
            | _ => false))

-- ============================================================= moments

/-- Reads between `least` and `most` ASCII digits, as many as there are. -/
def digitsBetween (least most : Nat) (s : List Char) :
    Option (List Char × List Char) :=
  let digits := (s.take most).takeWhile isAsciiDigit
  if least ≤ digits.length then some (digits, s.drop digits.length) else none

/-- The parts of a written moment. -/
structure MomentText where
  year : List Char
  month : List Char
  day : List Char
  /-- Hour, minute, second and the digits behind the point. -/
  clock : Option (List Char × List Char × List Char × List Char)
  /-- The sign, hours and minutes of a zone; all empty for `Z`. -/
  zone : Option (List Char × List Char × List Char)

/-- Reads the part behind the seconds: the zone, up to the end. -/
def zoneText? (s : List Char) :
    Option (Option (List Char × List Char × List Char)) :=
  if s.isEmpty then some none
  else
    match s.dropWhile fun c => c == ' ' || c == '\t' with
    | ['Z'] => some (some ([], [], []))
    | sign :: rest =>
      if sign == '+' || sign == '-' then do
        let (hours, rest) ← digitsBetween 1 2 rest
        match rest with
        | [] => some (some ([sign], hours, []))
        | ':' :: rest =>
          let (minutes, rest) ← digitsBetween 2 2 rest
          if rest.isEmpty then some (some ([sign], hours, minutes)) else none
        | _ => none
      else none
    | [] => none

/-- Reads a day, or a day and a time with or without a zone. -/
def momentText? (s : List Char) : Option MomentText := do
  let (year, s) ← digitsBetween 4 4 s
  let s ← after? ['-'] s
  let (month, s) ← digitsBetween 1 2 s
  let s ← after? ['-'] s
  let (day, s) ← digitsBetween 1 2 s
  if s.isEmpty then return ⟨year, month, day, none, none⟩
  let s ←
    match s with
    | 'T' :: rest => some rest
    | 't' :: rest => some rest
    | _ =>
      let rest := s.dropWhile fun c => c == ' ' || c == '\t'
      if rest.length < s.length then some rest else none
  let (hour, s) ← digitsBetween 1 2 s
  let s ← after? [':'] s
  let (minute, s) ← digitsBetween 2 2 s
  let s ← after? [':'] s
  let (second, s) ← digitsBetween 2 2 s
  let (fraction, s) :=
    match s with
    | '.' :: rest => (rest.takeWhile isAsciiDigit, rest.dropWhile isAsciiDigit)
    | _ => ([], s)
  let zone ← zoneText? s
  return ⟨year, month, day, some (hour, minute, second, fraction), zone⟩

/-- A moment by its text. A day alone has two digits for its month and its
day. -/
def looksMoment (s : List Char) : Bool :=
  match momentText? s with
  | some t =>
    t.clock.isSome || (t.month.length == 2 && t.day.length == 2)
  | none => false

-- =============================================================== words

/-- The three spellings of a word: all lower case, a capital in front, all
upper case. -/
def spellings (w : String) : List (List Char) :=
  let s := w.toList
  [s, (s.take 1).map Char.toUpper ++ s.drop 1, s.map Char.toUpper]

/-- The words for truth values. -/
def truthWords : List (List Char) :=
  ["yes", "no", "true", "false", "on", "off"].flatMap spellings

/-- The words for `null`. -/
def nullWords : List (List Char) := [[], ['~']] ++ spellings "null"

/-- The marks that a plain scalar cannot begin with, each alone a text of a
kind that has no values. -/
def bareMarks : List (List Char) := [['!'], ['&'], ['*']]

/-- A text without the line feed at its end. -/
def withoutFinalBreak (s : List Char) : List Char :=
  if s.getLast? == some '\n' then s.dropLast else s

/-- The kind of a plain scalar without a tag. -/
def Kind.ofPlain (text : List Char) : Kind :=
  let s := withoutFinalBreak text
  if truthWords.contains s then .bool
  else if looksFloat s then .float
  else if looksInt s then .int
  else if s == "<<".toList then .merge
  else if nullWords.contains s && !(s.isEmpty && !text.isEmpty) then .null
  else if looksMoment s then .timestamp
  else if s == ['='] then .value
  else if bareMarks.contains s then .unknown
  else .str

end Toolsmith.Yaml
