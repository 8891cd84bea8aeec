/-
Tables of characters under numbers, kept as runs of neighbours.
-/

namespace Toolsmith

/-- Characters under numbers: runs of neighbours, each with the number of its
first character, in ascending order. A replacement character in a run marks
a number that has none. -/
structure CodeTable where
  runs : List (Nat × String)
  deriving DecidableEq, Repr

namespace CodeTable

/-- The character at a place, unless it marks a gap. -/
def cell? (cells : List Char) (place : Nat) : Option Char :=
  cells[place]?.filter (· != '\ufffd')

/-- The character under a number. -/
def char? (t : CodeTable) (n : Nat) : Option Char :=
  (t.runs.takeWhile (·.1 ≤ n)).getLast?.bind fun (first, cells) =>
    cell? cells.toList (n - first)

/-- All characters of the table. -/
def chars (t : CodeTable) : List Char :=
  (t.runs.flatMap (·.2.toList)).filter (· != '\ufffd')

/-- Looks for the code point with `n` untaken ones before it, counted from
`first`. A guess is `n` places behind `first` and as many places further as
taken code points are not behind the last guess; the first guess that stays
is the one looked for. The first argument bounds the number of guesses. -/
def settleUntaken (first n : Nat) (taken : List Nat) : Nat → Nat → Nat
  | 0, guess => guess
  | fuel + 1, guess =>
    let better := first + n + taken.countP (· ≤ guess)
    if better == guess then guess
    else settleUntaken first n taken fuel better

/-- The code point number `n` of those from `first` on that are not
taken. -/
def untaken (first n : Nat) (taken : List Nat) : Nat :=
  settleUntaken first n (taken.filter (first ≤ ·)) (taken.length + 1)
    (first + n)

end CodeTable

end Toolsmith
