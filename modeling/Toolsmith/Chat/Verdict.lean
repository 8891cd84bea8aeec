/-
The verdict of a model on an utterance, and the intent that it makes: to
call one endpoint with arguments, or not to call any.
-/
import Toolsmith.Api.Endpoint
import Toolsmith.Call.Lookup
import Toolsmith.Chat.Reply
import Toolsmith.Value.Literal

namespace Toolsmith.Chat

/-- Arguments by their names. -/
abbrev Arguments := List (Value × Value)

-- ============================================================= verdicts

/-- What a model is asked to say about an utterance. -/
structure Verdict where
  shouldExecute : Bool
  endpointName : Option String
  arguments : Arguments
  missing : List Value
  confidence : Option Binary64
  reasoning : Option String
  deriving Repr

/-- Why a reply is no verdict. -/
inductive Malformed where
  | notObject
  | undecided
  | shape (complaints : List Shape.Complaint)
  deriving DecidableEq, Repr

/-- What a reply says. -/
inductive Reading where
  | verdict (v : Verdict)
  | malformed (why : Malformed)
  deriving Repr

namespace Verdict

/-- Arguments, which are none if the value is `null`. -/
def argumentsCheck : Shape.Check Arguments
  | .null => .ok []
  | .map entries => .ok entries
  | _ => .complain .dictType

/-- A list, which is empty if the value is `null`. -/
def listCheck : Shape.Check (List Value)
  | .null => .ok []
  | .list items => .ok items
  | _ => .complain .listType

/-- A confidence is any number, or a text that reads as one; everything else
counts as none. An integer beyond the doubles is a failure. -/
def confidenceOf : Value → Except Failure (Option Binary64)
  | .float x => .ok (some x)
  | .bool b => .ok (some (.ofInt (if b then 1 else 0)))
  | .int n =>
    match Binary64.ofInt n with
    | .infinity _ => .error (.misuse .size)
    | x => .ok (some x)
  | .text s => .ok (Number.float? s.toList)
  | _ => .ok none

open Shape in
/-- Reads a verdict with a given confidence from a record. -/
def check (confidence : Option Binary64) : Check Verdict :=
  record fun es =>
    Verdict.mk <$> field ["shouldExecute", "should_execute"] truth es
      <*> fieldOr ["endpointName", "endpoint_name"] none (optional text) es
      <*> fieldOr ["extractedParameters", "extracted_parameters"] []
        argumentsCheck es
      <*> fieldOr ["missingParameters", "missing_parameters"] []
        listCheck es
      <*> pure confidence
      <*> fieldOr ["reasoning"] none (optional text) es

/-- Reads the reply of a model. -/
def ofReply (reply : String) : Except Failure Reading := do
  match ← json? reply with
  | some (.map entries) =>
    if (Value.entry? "shouldExecute" entries).isNone then
      return .malformed .undecided
    else
      let stated := (Value.entry? "confidence" entries).getD .null
      let confidence ← confidenceOf stated
      match check confidence (.map entries) with
      | .ok v => return .verdict v
      | .refused complaints => return .malformed (.shape complaints)
  | _ => return .malformed .notObject

end Verdict

-- ============================================================== intents

/-- What to do about an utterance: call the target, if there is one. -/
structure Intent where
  confidence : Binary64
  target : Option (Endpoint × Arguments)
  missing : List Value
  reasoning : Option String
  deriving Repr

namespace Intent

/-- A call is to be made. -/
def shouldExecute (i : Intent) : Bool := i.target.isSome

/-- The confidence, or another number in place of none or zero. -/
def confidenceOr (x : Binary64) : Option Binary64 → Binary64
  | some y => if y.isZero then x else y
  | none => x

/-- One half. -/
def half : Binary64 := .ofRatio false 1 2

/-- Zero. -/
def zero : Binary64 := .zero false

/-- The parameters of the path that have no argument. -/
def withoutArgument (e : Endpoint) (arguments : Arguments) : List String :=
  (e.pathParams.map (·.name)).filter fun name =>
    match Value.entry? name arguments with
    | none | some .null => true
    | some _ => false

/-- The endpoint that a verdict wants to call, if nothing is missing. -/
def wanted? (endpoints : List Endpoint) (v : Verdict) : Option Endpoint :=
  if v.shouldExecute && v.missing.isEmpty then
    v.endpointName.bind (Catalog.findByName endpoints)
  else none

/-- The intent of a verdict. A call is made only if the verdict wants one of
an endpoint of the catalog, misses nothing, and gives an argument for every
parameter of the path. -/
def ofVerdict (endpoints : List Endpoint) (v : Verdict) : Intent :=
  match wanted? endpoints v with
  | some e =>
    let missing := withoutArgument e v.arguments
    if missing.isEmpty then
      ⟨confidenceOr half v.confidence, some (e, v.arguments), [],
       v.reasoning⟩
    else
      ⟨confidenceOr zero v.confidence, none, missing.map .text,
       v.reasoning⟩
  | none =>
    ⟨confidenceOr zero v.confidence, none, v.missing, v.reasoning⟩

/-- The intent of a reply; a malformed one wants nothing. -/
def ofReply (endpoints : List Endpoint) (reply : String) :
    Except Failure Intent := do
  match ← Verdict.ofReply reply with
  | .verdict v => return ofVerdict endpoints v
  | .malformed _ => return ⟨zero, none, [], none⟩

end Intent

-- ========================================================== suggestions

/-- An endpoint that fits a question, with the reason. -/
structure Suggestion where
  explanation : String
  endpoint : Value
  required : List String
  deriving Repr

namespace Suggestion

/-- A suggestion without an endpoint. -/
def plain (explanation : String) : Suggestion := ⟨explanation, .null, []⟩

/-- The suggestion of a reply. One that is no JSON object with an
explanation is the explanation itself. -/
def ofReply (reply : String) : Except Failure Suggestion := do
  match ← json? reply with
  | some (.map entries) =>
    match Value.entry? "explanation" entries with
    | some explanation =>
      let required :=
        match Value.entry? "requiredParameters" entries with
        | some (.list items) => items.map Value.displayString
        | _ => []
      return ⟨explanation.displayString,
        (Value.entry? "suggestedEndpoint" entries).getD .null, required⟩
    | none => return plain reply
  | _ => return plain reply

end Suggestion

end Toolsmith.Chat
