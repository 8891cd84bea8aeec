/-
The values that a description, a set of arguments or a response can hold:
what JSON has, and beyond it the bytes, dates, sets and keys of any kind
that YAML adds. A mapping keeps its entries in the order of their first
insertion.
-/
import Toolsmith.Number.Binary64

namespace Toolsmith

/-- A day of the calendar. -/
structure Date where
  year : Nat
  month : Nat
  day : Nat
  deriving DecidableEq, Repr

/-- A day with a time of day, and perhaps how many seconds the clock is
ahead of universal time. -/
structure Moment where
  date : Date
  hour : Nat
  minute : Nat
  second : Nat
  microsecond : Nat
  offset : Option Int
  deriving DecidableEq, Repr

namespace Moment

/-- The days in front of a year of the calendar. -/
def daysBeforeYear (year : Nat) : Nat :=
  let y := year - 1
  y * 365 + y / 4 - y / 100 + y / 400

/-- A year with a leap day. -/
def isLeapYear (year : Nat) : Bool :=
  year % 4 == 0 && (year % 100 != 0 || year % 400 == 0)

/-- How many days a month has. -/
def daysOfMonth (year month : Nat) : Nat :=
  if month == 2 then if isLeapYear year then 29 else 28
  else if [4, 6, 9, 11].contains month then 30
  else 31

/-- The days in front of a day of the calendar. -/
def daysBefore (d : Date) : Nat :=
  let months := (List.range (d.month - 1)).map fun m =>
    daysOfMonth d.year (m + 1)
  months.foldl (· + ·) (daysBeforeYear d.year + d.day)

/-- The microseconds of the clock since the calendar began. -/
def clock (t : Moment) : Nat :=
  let minutes := (daysBefore t.date * 24 + t.hour) * 60 + t.minute
  (minutes * 60 + t.second) * 1000000 + t.microsecond

/-- Two moments are one. With a zone they are instants of universal time;
one without a zone is none of those. -/
def same (t u : Moment) : Bool :=
  match t.offset, u.offset with
  | some a, some b => t.clock - a * 1000000 == (u.clock : Int) - b * 1000000
  | none, none => t == u
  | _, _ => false

end Moment

/-- A value. `pair` is one entry of an ordered list of entries, and `loop`
stands for a reference from inside a collection back to that collection,
which has a number and is a mapping or a list. -/
inductive Value where
  | null
  | bool (b : Bool)
  | int (n : Int)
  | float (x : Binary64)
  | text (s : String)
  | bytes (octets : List UInt8)
  | date (d : Date)
  | moment (t : Moment)
  | pair (first second : Value)
  | list (items : List Value)
  | map (entries : List (Value × Value))
  | set (items : List Value)
  | loop (number : Nat) (mapping : Bool)
  deriving Repr, Inhabited

namespace Value

/-- What the number of an entry key is: truth values count as one and
zero. -/
inductive KeyNumber where
  | whole (n : Int)
  | double (x : Binary64)
  deriving DecidableEq

/-- The number that a key stands for, if it is a number or a truth value.
A double that is an integer counts as that integer. -/
def keyNumber? : Value → Option KeyNumber
  | bool b => some (.whole (if b then 1 else 0))
  | int n => some (.whole n)
  | float x =>
    match x.toInt? with
    | some n => some (.whole n)
    | none => some (.double x)
  | _ => none


/-- Two keys of a mapping are one. Numbers and truth values compare as
numbers, where all that is not a number is one key; moments with a zone
compare as instants; other keys are the same if they are the same data. -/
def sameKey (a b : Value) : Bool :=
  match a.keyNumber?, b.keyNumber? with
  | some (.double x), some (.double y) => x == y
  | some x, some y => x == y
  | none, none =>
    match a, b with
    | null, null => true
    | text s, text t => s == t
    | bytes s, bytes t => s == t
    | date d, date e => d == e
    | moment t, moment u => t.same u
    | _, _ => false
  | _, _ => false

/-- Entries with `value` under `key`: a key that is there already keeps its
place and takes the new value, a new one goes to the end. -/
def insertEntry (key value : Value) :
    List (Value × Value) → List (Value × Value)
  | [] => [(key, value)]
  | (k, v) :: rest =>
    if k.sameKey key then (k, value) :: rest
    else (k, v) :: insertEntry key value rest

/-- A mapping built by inserting the entries one after the other. -/
def ofEntries (entries : List (Value × Value)) : Value :=
  map (entries.foldl (fun es (k, v) => insertEntry k v es) [])

/-- The value under a key. -/
def find? (key : Value) (entries : List (Value × Value)) : Option Value :=
  (entries.find? fun (k, _) => k.sameKey key).map (·.2)

/-- The value under a text key. -/
def entry? (name : String) (entries : List (Value × Value)) :
    Option Value :=
  find? (text name) entries

/-- The value under a text key of a mapping; anything else has none. -/
def field? (name : String) : Value → Option Value
  | map entries => entry? name entries
  | _ => none

/-- The value under a text key of a mapping, `null` if there is none. -/
def field (name : String) (v : Value) : Value := (v.field? name).getD null

/-- A mapping from texts. -/
def ofFields (fields : List (String × Value)) : Value :=
  map (fields.map fun (k, v) => (text k, v))

/-- Neither empty nor zero nor `null` nor `false`. -/
def isTruthy : Value → Bool
  | null => false
  | bool b => b
  | int n => n != 0
  | float x => !x.isZero
  | text s => s != ""
  | bytes b => !b.isEmpty
  | list items => !items.isEmpty
  | map entries => !entries.isEmpty
  | set items => !items.isEmpty
  | date _ | moment _ | pair _ _ | loop _ _ => true

/-- The value is a mapping, or stands for one. -/
def isMap : Value → Bool
  | map _ => true
  | loop _ mapping => mapping
  | _ => false

/-- The value is spelled out as a collection. -/
def isCollection : Value → Bool
  | list _ | map _ | set _ => true
  | _ => false

/-- The value may be a key of a mapping: it is not a collection, or it is a
pair of values that may. -/
def isKey : Value → Bool
  | list _ | map _ | set _ | loop _ _ => false
  | pair a b => a.isKey && b.isKey
  | _ => true

/-- The text of a text value. -/
def text? : Value → Option String
  | text s => some s
  | _ => none

/-- `v` if it is truthy, and otherwise `w`. -/
def orElse (v w : Value) : Value := if v.isTruthy then v else w

end Value

end Toolsmith
