/-
Finding JSON in the reply of a model, which may stand between code fences or
inside of prose.
-/
import Toolsmith.Failure
import Toolsmith.Text.Search

namespace Toolsmith.Chat

open Text

-- ============================================================== fences

/-- The mark that opens and closes a block of code. -/
def fence : List Char := "\x60\x60\x60".toList

/-- The text without something at its start, if it is there. -/
def dropStart (start s : List Char) : List Char := (after? start s).getD s

/-- The text without a fence at its end, if there is one. -/
def dropLastFence (s : List Char) : List Char :=
  if fence.isSuffixOf s then s.take (s.length - fence.length) else s

/-- What stands between a fence at the start and one at the end. The opening
fence may name the format. -/
def fenced? (s : List Char) : Option (List Char) := do
  let inside ← after? fence s
  guard (fence.isSuffixOf inside)
  return strip (dropStart "json".toList (dropLastFence inside))

/-- A text without the fences around it, and without a fence that is left
at either end. -/
def stripFences (s : List Char) : List Char :=
  let clean := strip s
  let inner := (fenced? clean).getD clean
  let opened :=
    match after? (fence ++ "json".toList) inner with
    | some rest => stripLeft rest
    | none => inner
  let opened :=
    match after? fence opened with
    | some rest => stripLeft rest
    | none => opened
  strip (dropLastFence (stripRight opened))

-- ================================================================ JSON

/-- From the first opening brace to the last closing one. -/
def braced? (s : List Char) : Option (List Char) :=
  let from_ := s.dropWhile (· != '\x7b')
  let span := (from_.reverse.dropWhile (· != '\x7d')).reverse
  if span.isEmpty then none else some span

/-- Reads JSON; a text that is none has no value, but an integer with too
many digits is a failure. -/
def readJson? (s : List Char) : Except Failure (Option Value) :=
  match Json.read s with
  | .ok v => .ok (some v)
  | .error (.malformed _ _) => .ok none
  | .error fault => .error (.ofJson fault)

/-- The JSON of a reply: the whole of it without fences, or what stands
between its outermost braces. -/
def json? (reply : String) : Except Failure (Option Value) := do
  let clean := stripFences reply.toList
  match ← readJson? clean with
  | some v => return some v
  | none =>
    match braced? clean with
    | some span => readJson? span
    | none => return none

end Toolsmith.Chat
