/-
Messages to a completion service, and a conversation as one text. A message
is a value: a mapping with a role and a content, and perhaps more.
-/
import Toolsmith.Failure
import Toolsmith.Value.Literal

namespace Toolsmith

/-- What a completion is asked for with: a text, or messages. -/
inductive Prompt where
  | text (s : String)
  | messages (ms : List Value)
  deriving Repr

namespace Message

/-- A message of a role. -/
def of (role content : String) : Value :=
  .ofFields [("role", .text role), ("content", .text content)]

/-- The message of a user. -/
def user (content : String) : Value := of "user" content

/-- Why a message has no place in a conversation. -/
inductive Fault where
  | notMapping (v : Value)
  | noContent
  | notText (content : Value)
  deriving Repr

namespace Fault

/-- What the kind of a value is called. -/
def kindName : Value → String
  | .null => "NoneType"
  | .bool _ => "bool"
  | .int _ => "int"
  | .float _ => "float"
  | .text _ => "str"
  | .list _ => "list"
  | .map _ => "dict"
  | _ => "object"

/-- The wording of a fault. -/
def message : Fault → String
  | notMapping v => s!"'{kindName v}' object has no attribute 'get'"
  | noContent => "'content'"
  | notText (.list _) =>
    "can only concatenate list (not \"str\") to list"
  | notText v =>
    s!"unsupported operand type(s) for +: '{kindName v}' and 'str'"

/-- A fault as a failure. -/
def failure : Fault → Failure
  | notMapping _ => .misuse .member
  | noContent => .misuse .key
  | notText _ => .misuse .kind

end Fault

/-- The part of a conversation that a message makes. -/
def transcript (message : Value) : Except Fault (List Char) :=
  match message with
  | .map entries =>
    let role := Value.entry? "role" entries
    match Value.entry? "content" entries with
    | none => .error .noContent
    | some content =>
      if role.bind Value.text? == some "system" then
        match content with
        | .text s => .ok (s.toList ++ ['\n', '\n'])
        | v => .error (.notText v)
      else
        let speaker :=
          if role.bind Value.text? == some "user" then "User: "
          else "Assistant: "
        .ok (speaker.toList ++ content.display ++ ['\n'])
  | v => .error (.notMapping v)

/-- A conversation as one text that the assistant goes on with. -/
def flatten (messages : List Value) : Except Fault String := do
  let parts ← messages.mapM transcript
  return String.ofList (parts.flatten ++ "Assistant: ".toList)

end Message

end Toolsmith
