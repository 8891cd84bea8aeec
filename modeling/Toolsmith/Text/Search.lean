/-
Finding and replacing inside a text.
-/

namespace Toolsmith.Text

/-- `s` begins with `start`; the answer is what follows. -/
def after? : List Char → List Char → Option (List Char)
  | [], s => some s
  | _ :: _, [] => none
  | a :: start, c :: s => if a == c then after? start s else none

/-- `part` occurs in the text. -/
def contains (part : List Char) : List Char → Bool
  | [] => part.isEmpty
  | c :: s => part.isPrefixOf (c :: s) || contains part s

/-- The text before the first occurrence of `part` and the text after it. -/
def cut? (part : List Char) : List Char → Option (List Char × List Char)
  | [] => if part.isEmpty then some ([], []) else none
  | c :: s =>
    match after? part (c :: s) with
    | some rest => some ([], rest)
    | none => (cut? part s).map fun (before, rest) => (c :: before, rest)

/-- Copies the text and puts `new` for every occurrence of `old`, from the
left and without overlap; `skip` characters still belong to the occurrence
found last. An empty `old` is never found. -/
def replaceSkipping (old new : List Char) : Nat → List Char → List Char
  | _, [] => []
  | skip + 1, _ :: s => replaceSkipping old new skip s
  | 0, c :: s =>
    if !old.isEmpty && old.isPrefixOf (c :: s) then
      new ++ replaceSkipping old new (old.length - 1) s
    else c :: replaceSkipping old new 0 s

/-- Every occurrence of `old`, from the left and without overlap, is `new`
instead. -/
def replace (old new s : List Char) : List Char :=
  replaceSkipping old new 0 s

/-- The first occurrence of `old` alone is `new` instead. -/
def replaceFirst (old new s : List Char) : List Char :=
  match cut? old s with
  | some (before, rest) => before ++ new ++ rest
  | none => s

end Toolsmith.Text
