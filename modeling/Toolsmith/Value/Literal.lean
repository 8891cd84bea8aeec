/-
Values as program text. `literal` writes a value the way it would stand in a
program: texts in quotes with escapes, collections in brackets. `display` is
the same except that a text stands for itself.
-/
import Toolsmith.Number.Layout
import Toolsmith.Number.Read
import Toolsmith.Text.Lines
import Toolsmith.Text.Surrogate
import Toolsmith.Value.Basic

namespace Toolsmith

open Text

-- ================================================================ texts

/-- The quote for a text: the double one only if the text holds the single
one and not the double one. -/
def quoteFor (s : List Char) : Char :=
  if s.contains '\'' && !s.contains '"' then '"' else '\''

/-- An escape for a code point, of the least width that holds it. -/
def codeEscape (n : Nat) : List Char :=
  if n < 0x100 then '\\' :: 'x' :: hexText 2 n
  else if n < 0x10000 then '\\' :: 'u' :: hexText 4 n
  else '\\' :: 'U' :: hexText 8 n

/-- A character inside a literal with the given quote. -/
def literalChar (quote c : Char) : List Char :=
  if c == quote || c == '\\' then ['\\', c]
  else if c == '\t' then ['\\', 't']
  else if c == '\n' then ['\\', 'n']
  else if c == '\r' then ['\\', 'r']
  else if isPrintable c then [c]
  else codeEscape (codePoint c)

/-- A text as a quoted literal. -/
def literalText (s : List Char) : List Char :=
  let quote := quoteFor s
  quote :: s.flatMap (literalChar quote) ++ [quote]

/-- Octets as a quoted literal after the letter `b`. -/
def literalBytes (octets : List UInt8) : List Char :=
  let chars := octets.map fun o => Char.ofNat o.toNat
  let quote := quoteFor chars
  let one (c : Char) : List Char :=
    if 0x80 ≤ c.toNat then codeEscape c.toNat else literalChar quote c
  'b' :: quote :: chars.flatMap one ++ [quote]

-- ======================================================= days and moments

/-- `a, b, c` in parentheses after a name. -/
def callText (name : String) (parts : List (List Char)) : List Char :=
  name.toList ++ '(' :: join ", ".toList parts ++ [')']

/-- A length of time as a call: whole days, if not zero, and seconds. -/
def spanLiteral (seconds : Int) : List Char :=
  let days := seconds.fdiv 86400
  let rest := seconds.fmod 86400
  let day := if days == 0 then [] else ["days=".toList ++ integerText days]
  let second :=
    if rest == 0 then [] else ["seconds=".toList ++ integerText rest]
  let parts := day ++ second
  callText "datetime.timedelta" (if parts.isEmpty then [['0']] else parts)

/-- The clock's distance from universal time as an expression. -/
def zoneLiteral (offset : Int) : List Char :=
  if offset == 0 then "datetime.timezone.utc".toList
  else callText "datetime.timezone" [spanLiteral offset]

/-- A day as an expression. -/
def Date.literal (d : Date) : List Char :=
  callText "datetime.date" ([d.year, d.month, d.day].map decimalText)

/-- A moment as an expression; seconds and fractions that are zero are left
out from the end. -/
def Moment.literal (t : Moment) : List Char :=
  let clock :=
    if t.microsecond != 0 then [t.second, t.microsecond]
    else if t.second != 0 then [t.second] else []
  let numbers :=
    [t.date.year, t.date.month, t.date.day, t.hour, t.minute] ++ clock
  let zone :=
    match t.offset with
    | none => []
    | some o => ["tzinfo=".toList ++ zoneLiteral o]
  callText "datetime.datetime" (numbers.map decimalText ++ zone)

/-- A day as `2024-01-31`. -/
def Date.iso (d : Date) : List Char :=
  paddedText 4 d.year ++ '-' :: paddedText 2 d.month
    ++ '-' :: paddedText 2 d.day

/-- The clock's distance from universal time as `+01:00`. -/
def zoneIso (offset : Int) : List Char :=
  let n := offset.natAbs
  (if offset < 0 then '-' else '+') :: paddedText 2 (n / 3600)
    ++ ':' :: paddedText 2 (n / 60 % 60)
    ++ (if n % 60 == 0 then [] else ':' :: paddedText 2 (n % 60))

/-- A moment with `between` between the day and the time. -/
def Moment.iso (between : Char) (t : Moment) : List Char :=
  t.date.iso ++ between :: paddedText 2 t.hour
    ++ ':' :: paddedText 2 t.minute ++ ':' :: paddedText 2 t.second
    ++ (if t.microsecond == 0 then [] else '.' :: paddedText 6 t.microsecond)
    ++ (match t.offset with | none => [] | some o => zoneIso o)

-- =============================================================== values

namespace Value

/-- The name of a truth value in a program text. -/
def truthName (b : Bool) : List Char :=
  (if b then "True" else "False").toList

mutual

/-- A value as it would stand in a program text. -/
def literal : Value → List Char
  | null => "None".toList
  | bool b => truthName b
  | int n => integerText n
  | float x => x.text
  | text s => literalText s.toList
  | bytes b => literalBytes b
  | date d => d.literal
  | moment t => t.literal
  | pair a b => '(' :: literal a ++ ", ".toList ++ literal b ++ [')']
  | list items => '[' :: join ", ".toList (literals items) ++ [']']
  | map entries => '\x7b' :: join ", ".toList (entryLiterals entries) ++ ['\x7d']
  | set items =>
    if items.isEmpty then "set()".toList
    else '\x7b' :: join ", ".toList (literals items) ++ ['\x7d']
  | loop _ mapping => if mapping then "\x7b...\x7d".toList else "[...]".toList

/-- The literals of a list of values. -/
def literals : List Value → List (List Char)
  | [] => []
  | v :: rest => literal v :: literals rest

/-- The entries of a mapping, each a key, a colon and a value. -/
def entryLiterals : List (Value × Value) → List (List Char)
  | [] => []
  | (k, v) :: rest =>
    (literal k ++ ": ".toList ++ literal v) :: entryLiterals rest

end

mutual

/-- Every integer in the value has few enough digits to be written. -/
def isWritable : Value → Bool
  | int n => Number.isWritable n
  | pair a b => isWritable a && isWritable b
  | list items => allWritable items
  | map entries => entriesWritable entries
  | set items => allWritable items
  | _ => true

/-- `isWritable` for all values of a list. -/
def allWritable : List Value → Bool
  | [] => true
  | v :: rest => isWritable v && allWritable rest

/-- `isWritable` for the keys and values of entries. -/
def entriesWritable : List (Value × Value) → Bool
  | [] => true
  | (k, v) :: rest => isWritable k && isWritable v && entriesWritable rest

end

/-- A value in running text: a text, a day or a moment stands for itself. -/
def display : Value → List Char
  | text s => s.toList
  | date d => d.iso
  | moment t => t.iso ' '
  | v => v.literal

/-- A value in running text. -/
def displayString (v : Value) : String := String.ofList v.display

end Value

end Toolsmith
