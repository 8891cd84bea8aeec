/-
Checking a value against the shape of a record. A check reads its part of a
value or complains about it, and the checks of one record all run, so that
the complaints about every field come together, in the order of the fields.
Numbers and truth values may come as texts, and a number as another kind of
number with the same value.
-/
import Toolsmith.Encoding.Utf8
import Toolsmith.Number.Read
import Toolsmith.Text.Lines
import Toolsmith.Text.Search
import Toolsmith.Value.Basic

namespace Toolsmith.Shape

open Text

/-- What is wrong with a part of a value. -/
inductive Code where
  | missing
  | stringType
  | stringUnicode
  | boolType
  | boolParsing
  | intType
  | intParsing
  | intParsingSize
  | intFromFloat
  | finiteNumber
  | floatType
  | floatParsing
  | literalError
  | listType
  | dictType
  | modelType
  | frozenInstance
  deriving DecidableEq, Repr

/-- The word for what is wrong. -/
def Code.name : Code → String
  | missing => "missing"
  | stringType => "string_type"
  | stringUnicode => "string_unicode"
  | boolType => "bool_type"
  | boolParsing => "bool_parsing"
  | intType => "int_type"
  | intParsing => "int_parsing"
  | intParsingSize => "int_parsing_size"
  | intFromFloat => "int_from_float"
  | finiteNumber => "finite_number"
  | floatType => "float_type"
  | floatParsing => "float_parsing"
  | literalError => "literal_error"
  | listType => "list_type"
  | dictType => "dict_type"
  | modelType => "model_type"
  | frozenInstance => "frozen_instance"

/-- A complaint about the part of a value that a path leads to. -/
structure Complaint where
  path : List String
  code : Code
  deriving DecidableEq, Repr

/-- The complaint under one more step of a path. -/
def Complaint.under (step : String) (c : Complaint) : Complaint :=
  { c with path := step :: c.path }

/-- A checked part: what it was read as, or all complaints about it. -/
inductive Checked (α : Type) where
  | ok (a : α)
  | refused (complaints : List Complaint)
  deriving Repr

namespace Checked

/-- Both parts, or the complaints about both. -/
def seq {α β : Type} (f : Checked (α → β)) (x : Checked α) : Checked β :=
  match f, x with
  | ok f, ok a => ok (f a)
  | ok _, refused cs => refused cs
  | refused cs, ok _ => refused cs
  | refused cs, refused ds => refused (cs ++ ds)

instance : Applicative Checked where
  pure := ok
  seq f x := f.seq (x ())

/-- A single complaint about the part itself. -/
def complain {α : Type} (code : Code) : Checked α := refused [⟨[], code⟩]

/-- The part stands under one more step of a path. -/
def under {α : Type} (step : String) : Checked α → Checked α
  | ok a => ok a
  | refused cs => refused (cs.map (·.under step))

/-- A check of what a part was read as. -/
def andThen {α β : Type} (x : Checked α) (f : α → Checked β) : Checked β :=
  match x with
  | ok a => f a
  | refused cs => refused cs

/-- All parts of a list, or the complaints about all of them. -/
def all {α : Type} : List (Checked α) → Checked (List α)
  | [] => ok []
  | x :: rest => List.cons <$> x <*> all rest

end Checked

/-- A check reads a value. -/
abbrev Check (α : Type) := Value → Checked α

-- ============================================================= scalars

/-- Anything at all. -/
def anything : Check Value := .ok

/-- A text; octets that are UTF-8 pass for one. -/
def text : Check String
  | .text s => .ok s
  | .bytes octets =>
    match Utf8.decode? octets with
    | some s => .ok (String.ofList s)
    | none => .complain .stringUnicode
  | _ => .complain .stringType

/-- The characters of a text; with lone surrogates it cannot be read. -/
def readable (s : String) : Checked (List Char) :=
  match Lone.find? s.toList with
  | some _ => .complain .stringUnicode
  | none => .ok s.toList

/-- The words for truth values. -/
def truthWord? (s : List Char) : Option Bool :=
  let w := String.ofList (s.map Char.toLower)
  if ["1", "t", "y", "true", "yes", "on"].contains w then some true
  else if ["0", "f", "n", "false", "no", "off"].contains w then some false
  else none

/-- An integer that a machine word holds as a truth value: zero or one. -/
def truthOfInt (n : Int) : Checked Bool :=
  if n == 0 then .ok false
  else if n == 1 then .ok true
  else .complain .boolParsing

/-- The integers of a machine word. -/
def isWord (n : Int) : Bool :=
  -9223372036854775808 ≤ n && n < 9223372036854775808

/-- A truth value. -/
def truth : Check Bool
  | .bool b => .ok b
  | .text s => (readable s).andThen fun s =>
    match truthWord? s with
    | some b => .ok b
    | none => .complain .boolParsing
  | .int n => if isWord n then truthOfInt n else .complain .boolType
  | .float x =>
    match x.toInt? with
    | some n => if isWord n then truthOfInt n else .complain .boolType
    | none => .complain .boolType
  | _ => .complain .boolType

/-- The integers whose doubles an integer is made from. -/
def isNearInt (n : Int) : Bool := n.natAbs < 9223372036854775808

/-- A text without the blanks around it; of the blanks the separators of
records stay. -/
def trim (s : List Char) : List Char := stripOf Number.isPadding s

/-- A text without its underscores, if it has any, none of them at an end
and no two side by side. -/
def withoutUnderscores? (s : List Char) : Option (List Char) :=
  if !s.contains '_' || s.head? == some '_' || s.getLast? == some '_'
      || contains ['_', '_'] s then none
  else some (s.filter (· != '_'))

/-- What an integer text is read as: an integer, none at all, or one with
more digits than are read. -/
inductive WholeText where
  | whole (n : Int)
  | malformed
  | tooLong
  deriving DecidableEq, Repr

/-- An integer text in plain form: a minus if it is negative, and ASCII
digits without a zero in front. The minus counts as a digit where the
length is limited, and what follows the digits does not count there. -/
def plainWhole (s : List Char) : WholeText :=
  let negative := s.head? == some '-'
  let body := if negative then s.drop 1 else s
  let digits := body.takeWhile isAsciiDigit
  let size := digits.length + (if negative then 1 else 0)
  if digits.head? == some '0' then
    if body.length == 1 then .whole 0 else .malformed
  else if Number.digitLimit < size then .tooLong
  else if digits.isEmpty || digits.length < body.length then .malformed
  else
    let n : Int := Number.ofDigits 10 (digits.filterMap digitValue?)
    .whole (if negative then -n else n)

/-- Digits without the zeros and the underscores in front; one zero stays
if there is nothing else or a point follows. -/
def significant? : List Char → Option (List Char)
  | '0' :: rest =>
    let skipped := rest.takeWhile fun c => c == '0' || c == '_'
    let last := skipped.getLastD '0'
    match rest.drop skipped.length with
    | [] => some [last]
    | '.' :: more => some (last :: '.' :: more)
    | c :: more => if isAsciiDigit c then some (c :: more) else none
  | c :: rest => if isAsciiDigit c then some (c :: rest) else none
  | [] => none

/-- A text without a point and zeros at its end. Another fraction is
refused. -/
def integral? (s : List Char) : Option (List Char) :=
  let whole := s.takeWhile (· != '.')
  if (s.drop (whole.length + 1)).all (· == '0') then some whole else none

/-- An integer text brought into plain form: without blanks around it, a
plus, zeros in front, a fraction of zeros, and underscores. -/
def plainForm? (s : List Char) : Option (List Char) := do
  let s := trim s
  let negative := s.head? == some '-'
  let body := if negative || s.head? == some '+' then s.drop 1 else s
  let whole ← integral? (← significant? body)
  let digits := (withoutUnderscores? whole).getD whole
  return if negative then '-' :: digits else digits

/-- An integer text: in plain form, or brought into it. -/
def wholeText (s : List Char) : WholeText :=
  match plainWhole s with
  | .malformed =>
    match plainForm? s with
    | some plain => plainWhole plain
    | none => .malformed
  | read => read

/-- An integer. -/
def whole : Check Int
  | .int n => .ok n
  | .bool b => .ok (if b then 1 else 0)
  | .float x =>
    match x with
    | .finite _ _ _ =>
      match x.toInt? with
      | some n => if isNearInt n then .ok n else .complain .intParsingSize
      | none => .complain .intFromFloat
    | _ => .complain .finiteNumber
  | .text s => (readable s).andThen fun s =>
    match wholeText s with
    | .whole n => .ok n
    | .malformed => .complain .intParsing
    | .tooLong => .complain .intParsingSize
  | _ => .complain .intType

/-- A double text in plain form: ASCII without blanks and underscores. -/
def plainDouble? (s : List Char) : Option Binary64 :=
  if s.all fun c => c.toNat < 0x80 && c != '_' && !isBlank c then
    Number.float? s
  else none

/-- A double text: blanks around a plain form, or a plain form with single
underscores in it. -/
def doubleText? (s : List Char) : Option Binary64 :=
  (plainDouble? (trim s)).or ((withoutUnderscores? s).bind plainDouble?)

/-- A double. An integer beyond the doubles is none. -/
def double : Check Binary64
  | .float x => .ok x
  | .int n =>
    match Binary64.ofInt n with
    | .infinity _ => .complain .floatType
    | x => .ok x
  | .bool b => .ok (.ofInt (if b then 1 else 0))
  | .text s => (readable s).andThen fun s =>
    match doubleText? s with
    | some x => .ok x
    | none => .complain .floatParsing
  | _ => .complain .floatType

/-- One of the given words. -/
def oneOf {α : Type} (words : List (String × α)) : Check α
  | .text s => (readable s).andThen fun _ =>
    match words.find? (·.1 == s) with
    | some (_, a) => .ok a
    | none => .complain .literalError
  | _ => .complain .literalError

/-- The value, or nothing for `null`. -/
def optional {α : Type} (check : Check α) : Check (Option α)
  | .null => .ok none
  | v => some <$> check v

-- ========================================================= collections

/-- The items of a list, counted from `n`. -/
def itemsFrom {α : Type} (check : Check α) (n : Nat) :
    List Value → Checked (List α)
  | [] => .ok []
  | v :: rest =>
    List.cons <$> (check v).under (toString n) <*> itemsFrom check (n + 1) rest

/-- A list. -/
def listOf {α : Type} (check : Check α) : Check (List α)
  | .list items => itemsFrom check 0 items
  | _ => .complain .listType

/-- The step of a path that a key makes. The three octets that a lone
surrogate would have are replaced one by one. -/
def keyStep : Value → String
  | .text s => String.ofList (s.toList.flatMap fun c =>
      if isLone c then ['\ufffd', '\ufffd', '\ufffd'] else [c])
  | _ => "[key]"

/-- A mapping from texts. -/
def mapOf {α : Type} (check : Check α) : Check (List (String × α))
  | .map entries =>
    .all (entries.map fun (k, v) =>
      Prod.mk <$> (text k).under (keyStep k) <*> (check v).under (keyStep k))
  | _ => .complain .dictType

-- ============================================================= records

/-- The name among `names` under which a record has a field, with the
value. -/
def lookup (names : List String) (entries : List (Value × Value)) :
    Option (String × Value) :=
  names.findSome? fun name => (Value.entry? name entries).map (name, ·)

/-- A field that has to be there, under one of its names. -/
def field {α : Type} (names : List String) (check : Check α)
    (entries : List (Value × Value)) : Checked α :=
  match lookup names entries with
  | some (name, v) => (check v).under name
  | none => (Checked.complain .missing).under (names.headD "")

/-- A field that may be left out. -/
def fieldOr {α : Type} (names : List String) (absent : α) (check : Check α)
    (entries : List (Value × Value)) : Checked α :=
  match lookup names entries with
  | some (name, v) => (check v).under name
  | none => .ok absent

/-- A record, read from the entries of a mapping. -/
def record {α : Type} (fields : List (Value × Value) → Checked α) :
    Check α
  | .map entries => fields entries
  | _ => .complain .modelType

end Toolsmith.Shape
