/-
Names for tools. `sanitize` keeps letters, digits and single underscores,
`toIdentifier` also avoids a digit in front, and `deduplicate` numbers the
repetitions in a list of names.
-/
import Toolsmith.Text.Class

namespace Toolsmith.Naming

open Text

/-- A character as it may stand in a name; any other one is an
underscore. -/
def nameChar (c : Char) : Char := if isNameChar c then c else '_'

/-- The text with one underscore for each run of them; `after` says that
an underscore stands in front of it. -/
def squeezeFrom (after : Bool) : List Char → List Char
  | [] => []
  | c :: rest =>
    if c == '_' && after then squeezeFrom true rest
    else c :: squeezeFrom (c == '_') rest

/-- The text with one underscore for each run of them. -/
def squeeze (s : List Char) : List Char := squeezeFrom false s

/-- The text as a part of a name: what a name may not hold becomes an
underscore, and no two underscores are adjacent. -/
def sanitize (s : List Char) : List Char := squeeze (s.map nameChar)

/-- The text as a name, which does not begin with a digit. -/
def toIdentifier (s : List Char) : List Char :=
  let name := sanitize s
  if (name.head?.map isAsciiDigit).getD false then '_' :: name else name

-- ======================================================== repetitions

/-- A name with a number behind it. -/
def numbered (name : List Char) (n : Nat) : List Char :=
  name ++ '_' :: decimalText n

/-- The first number from `n` on that makes a name which is not taken; the
first argument bounds the search. -/
def freeNumber (taken : List (List Char)) (name : List Char) :
    Nat → Nat → Nat
  | 0, n => n
  | fuel + 1, n =>
    if taken.contains (numbered name n) then freeNumber taken name fuel (n + 1)
    else n

/-- How often a name has come up, as far as the numbers given to it say. -/
def countOf (counts : List (List Char × Nat)) (name : List Char) :
    Option Nat :=
  (counts.find? (·.1 == name)).map (·.2)

/-- Numbers the repetitions in the rest of a list. `taken` holds every name
that may not be made, and `counts` the last number of each name. -/
def deduplicateFrom (taken : List (List Char))
    (counts : List (List Char × Nat)) :
    List (List Char) → List (List Char)
  | [] => []
  | name :: rest =>
    match countOf counts name with
    | none => name :: deduplicateFrom taken ((name, 1) :: counts) rest
    | some last =>
      let n := freeNumber taken name (taken.length + 1) (last + 1)
      let made := numbered name n
      made :: deduplicateFrom (made :: taken) ((name, n) :: counts) rest

/-- The names with a number behind each repetition; no number makes a name
that the list has already. -/
def deduplicate (names : List (List Char)) : List (List Char) :=
  deduplicateFrom names [] names

end Toolsmith.Naming
