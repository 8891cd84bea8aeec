/-
How similar two texts are: the share of their characters that lie in common
runs. The longest common run counts first, and then the runs on either side
of it.
-/

namespace Toolsmith.Text

/-- How many characters two texts have in common at their start. -/
def commonStart : List Char → List Char → Nat
  | a :: s, b :: t => if a == b then commonStart s t + 1 else 0
  | _, _ => 0

/-- A run that two texts have in common: where it begins in each of them,
and how long it is. -/
structure Run where
  left : Nat
  right : Nat
  length : Nat
  deriving DecidableEq, Repr

/-- The first of the longest runs. -/
def longest (runs : List Run) : Run :=
  runs.foldl (fun best r => if best.length < r.length then r else best)
    ⟨0, 0, 0⟩

/-- The longest run that two texts have in common, the earliest one of
several. -/
def longestRun (s t : List Char) : Run :=
  longest <| (List.range s.length).flatMap fun i =>
    (List.range t.length).map fun j =>
      ⟨i, j, commonStart (s.drop i) (t.drop j)⟩

/-- How many characters lie in common runs; `fuel` bounds how often a text
is divided, and its length is enough. -/
def matched : Nat → List Char → List Char → Nat
  | 0, _, _ => 0
  | fuel + 1, s, t =>
    let r := longestRun s t
    if r.length == 0 then 0
    else
      matched fuel (s.take r.left) (t.take r.right) + r.length
        + matched fuel (s.drop (r.left + r.length))
            (t.drop (r.right + r.length))

/-- The share of the characters of two texts that lie in common runs, as a
fraction. -/
def similarity (s t : List Char) : Nat × Nat :=
  (2 * matched s.length s t, s.length + t.length)

/-- A fraction is less than another one. -/
def lessShare (a b : Nat × Nat) : Bool := a.1 * b.2 < b.1 * a.2

/-- The most texts that count as similar to a word. -/
def similarLimit : Nat := 3

/-- The known texts that are similar to a word, in alphabetical order: those
that share three fifths with it, and of them the most similar ones. -/
def similarTo (word : String) (known : List String) : List String :=
  let rated := known.map fun s => (similarity s.toList word.toList, s)
  let close := rated.filter fun r => !lessShare r.1 (3, 5)
  let ranked := close.mergeSort fun a b =>
    lessShare b.1 a.1 || (!lessShare a.1 b.1 && decide (b.2 ≤ a.2))
  ((ranked.take similarLimit).map (·.2)).mergeSort fun a b =>
    decide (a ≤ b)

end Toolsmith.Text
