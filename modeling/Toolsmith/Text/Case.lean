/-
Upper and lower case. The case forms of one character come from the runs of
`CaseTable`; only the small sigma depends on its neighbours: a capital sigma
that ends a word turns into the final form.
-/
import Toolsmith.Text.CaseTable
import Toolsmith.Text.Class

namespace Toolsmith.Text

/-- The code point that a run list assigns to `n`, when one of its runs
covers it. -/
def runImage? (runs : List (Nat × Nat × Nat × Int)) (n : Nat) :
    Option Nat :=
  (runs.find? fun (first, last, step, _) =>
    first ≤ n && n ≤ last && (n - first) % step == 0).map
      fun (_, _, _, shift) => (n + shift).toNat

/-- The case form of one character under an expansion list and a run list;
a character that neither mentions is its own form. -/
def caseForm (expansions : List (Nat × List Nat))
    (runs : List (Nat × Nat × Nat × Int)) (c : Char) : List Char :=
  match expansions.find? (·.1 == c.toNat) with
  | some (_, form) => form.map Char.ofNat
  | none =>
    match runImage? runs c.toNat with
    | some n => [Char.ofNat n]
    | none => [c]

/-- The lower-case form of a character on its own. -/
def lowerChar (c : Char) : List Char :=
  if c.toNat < 0x80 then [if 'A' ≤ c && c ≤ 'Z' then c.toLower else c]
  else caseForm lowerExpansions lowerRuns c

/-- The upper-case form of a character. -/
def upperChar (c : Char) : List Char :=
  if c.toNat < 0x80 then [if 'a' ≤ c && c ≤ 'z' then c.toUpper else c]
  else caseForm upperExpansions upperRuns c

/-- Skipped when the neighbours of a capital sigma are looked at. -/
def isCaseIgnorable (c : Char) : Bool := inRanges caseIgnorableRanges c.toNat

/-- A letter with case that is not skipped beside a sigma. -/
def isCased (c : Char) : Bool := inRanges casedRanges c.toNat

/-- The nearest character that is not skipped has case. -/
def meetsCased (neighbours : List Char) : Bool :=
  ((neighbours.dropWhile isCaseIgnorable).head?.map isCased).getD false

/-- Lower case of `rest`, where `before` holds the characters in front of
it, nearest first. A capital sigma after a cased letter and not before one
takes its final form. -/
def lowerAfter : List Char → List Char → List Char
  | _, [] => []
  | before, c :: rest =>
    (if c == 'Σ' then
      [if meetsCased before && !meetsCased rest then 'ς' else 'σ']
    else lowerChar c) ++ lowerAfter (c :: before) rest

/-- Lower case of a text. -/
def lower (s : List Char) : List Char := lowerAfter [] s

/-- Upper case of a text. -/
def upper (s : List Char) : List Char := s.flatMap upperChar

end Toolsmith.Text
