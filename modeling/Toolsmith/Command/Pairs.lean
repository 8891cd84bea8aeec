/-
Arguments for a call, given as pairs of a key and a value.
-/
import Toolsmith.Failure
import Toolsmith.Json.Reader

namespace Toolsmith.Command

/-- The value of a pair: what it says as JSON, or else its text. -/
def pairValue (text : List Char) : Except Failure Value :=
  match Json.read text with
  | .ok v => .ok v
  | .error (.malformed _ _) => .ok (.text (String.ofList text))
  | .error fault => .error (.ofJson fault)

/-- A pair: a key that is not empty, an equals sign, and a value. -/
def pair (text : String) : Except Failure (String × Value) :=
  let cs := text.toList
  let key := cs.takeWhile (· != '=')
  match cs.dropWhile (· != '=') with
  | [] => .error (.parameter text)
  | _ :: value =>
    if key.isEmpty then .error (.parameter text)
    else do return (String.ofList key, ← pairValue value)

/-- The arguments that pairs give. Of pairs with one key the last one
counts. -/
def arguments (pairs : List String) : Except Failure (List (Value × Value)) := do
  let found ← pairs.mapM pair
  return found.foldl
    (fun entries (key, v) => Value.insertEntry (.text key) v entries) []

end Toolsmith.Command
