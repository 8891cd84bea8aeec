/-
The texts that a model is given: the question about an utterance, the
question for an endpoint, and the message about the API and the outcome of
a call.
-/
import Toolsmith.Api.Outcome
import Toolsmith.Api.Server
import Toolsmith.Backend.Message

namespace Toolsmith.Chat

open Text

-- =============================================================== values

/-- How values are shown to a model: each level behind a margin, or on one
line, with all characters as they are. -/
def shown (margin : Option (List Char)) : Json.Style :=
  ⟨margin, false, .plain, false, false⟩

/-- What stands for a value that has no JSON form. -/
def faultText (message : String) : String :=
  "[Error stringifying object: " ++ message ++ "]"

/-- A value as JSON; one that has no JSON form is told by its fault. -/
def valueText (margin : Option (List Char)) (v : Value) : String :=
  match Json.write (shown margin) v with
  | .ok text => String.ofList text
  | .error fault => faultText fault.message

/-- The margin that a value asks for: so many blanks, or a text; `null` asks
for one line. -/
def margin : Value → Except String (Option (List Char))
  | .null => .ok none
  | .text s => .ok (some s.toList)
  | .int n => .ok (some (List.replicate n.toNat ' '))
  | .bool b => .ok (some (if b then [' '] else []))
  | v => .error ("can't multiply sequence by non-int of type '"
      ++ Message.Fault.kindName v ++ "'")

/-- A value as JSON behind the margin that another one asks for. A text has
no levels, and no margin either. -/
def valueTextWith (indent v : Value) : String :=
  match margin indent with
  | .ok margin => valueText margin v
  | .error message =>
    if v matches .text _ then valueText none v else faultText message

-- ============================================================ questions

/-- Lines as one text, with a break behind each. -/
def linesText (lines : List String) : String :=
  String.join (lines.map (· ++ "\n"))

/-- An endpoint in the question about an utterance. -/
def analysisEntry (e : Endpoint) : String :=
  linesText
    ["", "- " ++ e.name ++ ": " ++ e.description,
     "  Method: " ++ e.method ++ " " ++ e.path,
     "  Parameters: " ++ e.signature]

/-- The question what an utterance wants. -/
def analysis (utterance : String) (endpoints : List Endpoint) : String :=
  linesText
    ["Analyze this user request and determine if they want to execute an "
      ++ "API call:",
     "", "User message: \"" ++ utterance ++ "\"", "",
     "Available API endpoints:"]
  ++ String.join (endpoints.map analysisEntry)
  ++ linesText
    ["", "Determine:",
     "1. Does the user want to execute an API call? (yes/no)",
     "2. Which endpoint should be used? (endpoint name or null)",
     "3. What parameters can be extracted from the message?",
     "4. What parameters are missing and need to be asked for?", "",
     "Respond ONLY with valid JSON in this exact format:", "\x7b",
     "  \"shouldExecute\": boolean,",
     "  \"endpointName\": \"string or null\",",
     "  \"extractedParameters\": \x7b\x7d,",
     "  \"missingParameters\": [],",
     "  \"confidence\": 0.0-1.0,",
     "  \"reasoning\": \"brief explanation\""]
  ++ "\x7d"

/-- An endpoint in the question for an endpoint. -/
def suggestionEntry (e : Endpoint) : String :=
  linesText
    ["- " ++ e.name ++ ": " ++ e.description ++ " (" ++ e.method ++ " "
      ++ e.path ++ ")"]

/-- The question which endpoint fits. -/
def suggestion (query : String) (endpoints : List Endpoint) : String :=
  linesText
    ["Given the user query: \"" ++ query ++ "\"", "",
     "And these available API endpoints:"]
  ++ String.join (endpoints.map suggestionEntry)
  ++ linesText
    ["",
     "Which endpoint would be most appropriate to fulfill this request? "
      ++ "Provide:",
     "1. The endpoint name (if applicable)",
     "2. Required parameters that would need to be collected from the user",
     "3. A brief explanation of how this endpoint would help", "",
     "Respond ONLY with valid JSON:", "\x7b",
     "  \"suggestedEndpoint\": \"endpoint_name_or_null\",",
     "  \"requiredParameters\": [\"param1\", \"param2\"],",
     "  \"explanation\": \"Brief explanation\""]
  ++ "\x7d"

-- ====================================================== the API message

/-- A parameter in the message about the API. -/
def systemParam (p : Param) : String :=
  p.name ++ " (" ++ p.type ++ (if p.required then ", required" else "")
    ++ ")"

/-- An endpoint in the message about the API. -/
def systemEntry (e : Endpoint) : String :=
  linesText
    ["", "- **" ++ e.name ++ "**: " ++ e.description,
     "  - Method: " ++ e.method, "  - Path: " ++ e.path,
     "  - Parameters: " ++ ", ".intercalate (e.parameters.map systemParam)]

/-- The part of the message about the outcome of a call. -/
def systemOutcome (o : Outcome) : String :=
  let status : String :=
    match o.statusCode with
    | some n => String.ofList (integerText n)
    | none => "n/a"
  linesText
    ["", "API Call Result:", "- Endpoint: " ++ o.endpoint,
     "- Method: " ++ o.method,
     "- Success: " ++ (if o.success then "true" else "false"),
     "- Status Code: " ++ status,
     (if o.success then "- Data: " ++ valueText (some [' ', ' ']) o.data
      else "- Error: " ++ (o.error.getD "None")),
     "",
     "Please interpret and present this API response to the user in a "
      ++ "helpful, conversational way."]

/-- The text of the message about the API, and about the outcome of a call if
one was made. -/
def system (s : Server) (outcome : Option Outcome) : String :=
  linesText
    ["You are an AI assistant that can help users interact with the \""
      ++ s.name ++ "\" API. You have access to the following endpoints:"]
  ++ String.join (s.endpoints.map systemEntry)
  ++ linesText
    ["",
     "You can execute API calls for users when they request specific "
      ++ "actions. When a user asks for something that requires an API "
      ++ "call, you should:",
     "1. Identify the appropriate endpoint",
     "2. Extract or ask for required parameters",
     "3. Execute the API call",
     "4. Present the results in a helpful format", "",
     "Be conversational, helpful, and explain what you're doing when making "
      ++ "API calls."]
  ++ (outcome.map systemOutcome).getD ""

mutual

/-- How far down a value is written: one level for every list or mapping,
and one for a double. -/
def levels : Value → Nat
  | .float _ => 1
  | .pair a b => max (levels a) (levels b) + 1
  | .list items => levelsOfItems items + 1
  | .map entries => levelsOfEntries entries + 1
  | .null | .bool _ | .int _ | .text _ | .bytes _ | .date _ | .moment _
  | .set _ | .loop _ _ => 0

/-- How far down the items of a list are written. -/
def levelsOfItems : List Value → Nat
  | [] => 0
  | v :: rest => max (levels v) (levelsOfItems rest)

/-- How far down the values of entries are written. -/
def levelsOfEntries : List (Value × Value) → Nat
  | [] => 0
  | (_, v) :: rest => max (levels v) (levelsOfEntries rest)

end

/-- The wording for data that go down too far. -/
def tooDeepToShow : String := "maximum recursion depth exceeded"

/-- The message about the API and the outcome. Data are shown as far down as
they are read; beyond that there is no message. -/
def systemMessage (s : Server) (outcome : Option Outcome) :
    Except Failure String :=
  match outcome with
  | some o =>
    if levels o.data ≤ Json.depthLimit then .ok (system s outcome)
    else .error (.outside tooDeepToShow)
  | none => .ok (system s none)

end Toolsmith.Chat
