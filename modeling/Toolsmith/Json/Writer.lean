/-
Values as JSON text. A style chooses between one line and indented lines,
between ASCII and all characters, and how doubles are laid out. Bytes,
dates, moments and sets have no JSON form, and neither has a collection that
holds itself.
-/
import Toolsmith.Number.Layout
import Toolsmith.Number.Read
import Toolsmith.Text.Lines
import Toolsmith.Text.Surrogate
import Toolsmith.Value.Basic

namespace Toolsmith.Json

open Text

/-- The kinds of value without a JSON form. -/
inductive Foreign where
  | bytes
  | date
  | moment
  | set
  | pair
  deriving DecidableEq, Repr

/-- What a foreign kind is called. -/
def Foreign.name : Foreign → String
  | bytes => "bytes"
  | date => "date"
  | moment => "datetime"
  | set => "set"
  | pair => "tuple"

/-- Why a value has no JSON form. -/
inductive WriteFault where
  | value (kind : Foreign)
  | key (kind : Foreign)
  | circular
  /-- An integer has too many digits. -/
  | width
  /-- A text that is to be written as octets holds lone surrogates. -/
  | lone (run : Lone)
  /-- A value stands deeper than is written as octets. -/
  | depth
  deriving DecidableEq, Repr

/-- The wording of a fault. -/
def WriteFault.message : WriteFault → String
  | value kind => s!"Object of type {kind.name} is not JSON serializable"
  | key kind =>
    s!"keys must be str, int, float, bool or None, not {kind.name}"
  | circular => "Circular reference detected"
  | width => Number.tooWide
  | lone run => s!"UnicodeEncodeError: {run.message}"
  | depth => "ValueError: Circular reference detected (depth exceeded)"

/-- How JSON is laid out. -/
structure Style where
  /-- What one level is indented by, or everything on one line. -/
  indent : Option (List Char)
  /-- Characters beyond ASCII are escaped. -/
  ascii : Bool
  /-- The layout of doubles. -/
  layout : Number.Layout
  /-- Infinities and what is not a number become `null`. -/
  finiteOnly : Bool
  /-- The result is meant for octets: texts have no lone surrogates, integers
  have any number of digits, and values stand only so deep. -/
  octets : Bool

/-- One line of ASCII. -/
def Style.line : Style := ⟨none, true, .plain, false, false⟩

/-- Lines indented by two spaces, in ASCII. -/
def Style.manifest : Style := ⟨some [' ', ' '], true, .plain, false, false⟩

/-- Lines indented by two spaces, with all characters. -/
def Style.report : Style := ⟨some [' ', ' '], false, .compact, true, true⟩

-- ============================================================= scalars

/-- The escape of one UTF-16 unit. -/
def unitEscape (n : Nat) : List Char := '\\' :: 'u' :: hexText 4 n

/-- The escape of a code point: one UTF-16 unit or two. -/
def codeUnits (n : Nat) : List Char :=
  if n < 0x10000 then unitEscape n
  else
    let m := n - 0x10000
    unitEscape (0xd800 + m / 0x400) ++ unitEscape (0xdc00 + m % 0x400)

/-- A character inside a JSON string. -/
def stringChar (ascii : Bool) (c : Char) : List Char :=
  if c == '"' then ['\\', '"']
  else if c == '\\' then ['\\', '\\']
  else if c == '\n' then ['\\', 'n']
  else if c == '\r' then ['\\', 'r']
  else if c == '\t' then ['\\', 't']
  else if c == '\x0c' then ['\\', 'f']
  else if c == '\x08' then ['\\', 'b']
  else if c.toNat < 0x20 || (ascii && 0x7f ≤ c.toNat) then
    codeUnits (codePoint c)
  else [c]

/-- A text as a JSON string. -/
def stringText (ascii : Bool) (s : List Char) : List Char :=
  '"' :: s.flatMap (stringChar ascii) ++ ['"']

/-- A text as a JSON string in a style. -/
def styledText (style : Style) (s : List Char) :
    Except WriteFault (List Char) :=
  match Lone.find? s with
  | some run =>
    if style.octets then .error (.lone run)
    else .ok (stringText style.ascii s)
  | none => .ok (stringText style.ascii s)

/-- An integer in a style. -/
def styledInteger (style : Style) (n : Int) : Except WriteFault (List Char) :=
  if style.octets || Number.isWritable n then .ok (integerText n)
  else .error .width

/-- A truth value. -/
def boolText (b : Bool) : List Char := (if b then "true" else "false").toList

/-- A double. -/
def floatText (style : Style) : Binary64 → List Char
  | .finite negative mantissa exponent =>
    Number.finiteText style.layout negative mantissa exponent
  | .nan => (if style.finiteOnly then "null" else "NaN").toList
  | .infinity negative =>
    (if style.finiteOnly then "null"
     else if negative then "-Infinity" else "Infinity").toList

/-- The text of an entry key: a text itself, or what a number, a truth
value or `null` is written as. -/
def keyText (style : Style) : Value → Except WriteFault (List Char)
  | .text s => .ok s.toList
  | .null => .ok "null".toList
  | .bool b => .ok (boolText b)
  | .int n => styledInteger style n
  | .float x => .ok (floatText style x)
  | .bytes _ => .error (.key .bytes)
  | .date _ => .error (.key .date)
  | .moment _ => .error (.key .moment)
  | .pair _ _ | .list _ | .map _ | .set _ | .loop _ _ => .error (.key .pair)

-- ========================================================= collections

/-- What follows an opening bracket or a comma at the given depth. -/
def lineStart (style : Style) (depth : Nat) : List Char :=
  match style.indent with
  | none => []
  | some margin => '\n' :: (List.replicate depth margin).flatten

/-- What stands between two members at the given depth. -/
def separator (style : Style) (depth : Nat) : List Char :=
  match style.indent with
  | none => ", ".toList
  | some _ => ',' :: lineStart style depth

/-- Members between brackets; without members the brackets stand side by
side. -/
def bracketed (style : Style) (depth : Nat) (opening closing : Char)
    (members : List (List Char)) : List Char :=
  if members.isEmpty then [opening, closing]
  else
    opening :: lineStart style (depth + 1)
      ++ join (separator style (depth + 1)) members
      ++ lineStart style depth ++ [closing]

/-- The depth at which nothing is written as octets any more. -/
def depthBound : Nat := 255

/-- The depth is refused in a style. -/
def isTooDeep (style : Style) (depth : Nat) : Bool :=
  style.octets && depthBound ≤ depth

mutual

/-- The JSON text of a value at a depth of nesting. -/
def writeAt (style : Style) (depth : Nat) (v : Value) :
    Except WriteFault (List Char) :=
  if isTooDeep style depth then .error .depth
  else
    match v with
    | .null => .ok "null".toList
    | .bool b => .ok (boolText b)
    | .int n => styledInteger style n
    | .float x => .ok (floatText style x)
    | .text s => styledText style s.toList
    | .bytes _ => .error (.value .bytes)
    | .date _ => .error (.value .date)
    | .moment _ => .error (.value .moment)
    | .set _ => .error (.value .set)
    | .loop _ _ => .error .circular
    | .pair a b => do
      let first ← writeAt style (depth + 1) a
      let second ← writeAt style (depth + 1) b
      return bracketed style depth '[' ']' [first, second]
    | .list items => do
      return bracketed style depth '[' ']' (← writeItems style (depth + 1) items)
    | .map entries => do
      return bracketed style depth '\x7b' '\x7d'
        (← writeEntries style (depth + 1) entries)

/-- The JSON texts of a list of values. -/
def writeItems (style : Style) (depth : Nat) :
    List Value → Except WriteFault (List (List Char))
  | [] => .ok []
  | v :: rest => do
    let first ← writeAt style depth v
    return first :: (← writeItems style depth rest)

/-- The JSON texts of entries, each a string, a colon and a value. -/
def writeEntries (style : Style) (depth : Nat) :
    List (Value × Value) → Except WriteFault (List (List Char))
  | [] => .ok []
  | (k, v) :: rest => do
    let key ← keyText style k
    let name ← styledText style key
    let value ← writeAt style depth v
    let first := name ++ ": ".toList ++ value
    return first :: (← writeEntries style depth rest)

end

/-- The JSON text of a value. -/
def write (style : Style) (v : Value) : Except WriteFault (List Char) :=
  writeAt style 0 v

end Toolsmith.Json
