/-
Calling an endpoint: the request that arguments and credentials make, and
the outcome that its answer makes. Requests are data, and `execute` works
with any way to send them.
-/
import Toolsmith.Api.Outcome
import Toolsmith.Api.Server
import Toolsmith.Call.Response
import Toolsmith.Encoding.Percent
import Toolsmith.Text.Case
import Toolsmith.Text.Search
import Toolsmith.Value.Literal

namespace Toolsmith

open Text

/-- A request. The query keeps the order of the parameters. -/
structure Request where
  method : String
  url : String
  headers : List (String × String)
  query : List (String × String)
  content : Option String
  deriving DecidableEq, Repr

/-- What calls the endpoints of a server: its base URL and credentials. -/
structure Engine where
  baseUrl : String
  auth : Option Auth
  deriving DecidableEq, Repr

namespace Engine

/-- The engine of a server. The server's own credentials count unless others
are given. -/
def ofServer (s : Server) (auth : Option Auth) : Engine :=
  ⟨s.baseUrl, auth.or s.auth⟩

-- ============================================================ arguments

/-- What the engine calls itself towards the API. -/
def userAgent : String := "MCP-Chat-Client/1.0"

/-- A fault of writing JSON as a failure. -/
def ofWriteFault : Json.WriteFault → Failure
  | .circular | .depth => .misuse .value
  | .width => .misuse .width
  | .lone run => .misuse (.lone run)
  | .value _ | .key _ => .misuse .kind

/-- The text of an argument in a URL: truth values are words, collections
are JSON. -/
def argumentText : Value → Except Failure (List Char)
  | .bool b => .ok (if b then "true" else "false").toList
  | v@(.map _) => (Json.write .line v).mapError ofWriteFault
  | v@(.list _) => (Json.write .line v).mapError ofWriteFault
  | v@(.loop _ _) => (Json.write .line v).mapError ofWriteFault
  | v => Failure.ofDisplay v

/-- The argument under a name, unless it is `null` or absent. -/
def argument? (name : String) (arguments : List (Value × Value)) :
    Option Value :=
  match Value.entry? name arguments with
  | some .null => none
  | found => found

/-- The arguments that a value gives: its entries if it is a mapping. -/
def argumentsOf : Value → List (Value × Value)
  | .map entries => entries
  | _ => []

-- ================================================================= URL

/-- The place of a parameter in a path. -/
def token (name : String) : List Char :=
  '\x7b' :: name.toList ++ ['\x7d']

/-- Fills the places of parameters in a URL one after the other: the URL and
the names of those that have no argument. A parameter without a place is
passed over. -/
def fill (arguments : List (Value × Value)) :
    List Param → List Char → Except Failure (List Char × List String)
  | [], url => .ok (url, [])
  | p :: rest, url =>
    if !contains (token p.name) url then fill arguments rest url
    else
      match argument? p.name arguments with
      | none => do
        let (filled, missing) ← fill arguments rest url
        return (filled, p.name :: missing)
      | some v => do
        let value ← Failure.ofLone (Percent.encode? (← argumentText v))
        fill arguments rest (replace (token p.name) value url)

/-- The URL of an endpoint with arguments, and the parameters that miss
one. -/
def url (engine : Engine) (e : Endpoint) (arguments : List (Value × Value)) :
    Except Failure (List Char × List String) :=
  fill arguments e.pathParams
    (dropTrailing '/' engine.baseUrl.toList ++ e.path.toList)

-- ======================================================= other contents

/-- Puts a header in its place, or at the end if there is none of its
name. -/
def putHeader (headers : List (String × String)) (h : String × String) :
    List (String × String) :=
  if headers.any (·.1 == h.1) then
    headers.map fun old => if old.1 == h.1 then h else old
  else headers ++ [h]

/-- The headers of every request, those of the credentials last. -/
def headers (engine : Engine) : Except Failure (List (String × String)) := do
  let own ←
    match engine.auth with
    | some auth => Failure.ofLone auth.headers
    | none => pure []
  return own.foldl putHeader
    [("Content-Type", "application/json"), ("User-Agent", userAgent)]

/-- The query: each parameter that has an argument. -/
def query (e : Endpoint) (arguments : List (Value × Value)) :
    Except Failure (List (String × String)) := do
  let parts ← e.queryParams.mapM fun p =>
    match argument? p.name arguments with
    | none => .ok none
    | some v => do return some (p.name, String.ofList (← argumentText v))
  return parts.filterMap id

/-- The content: the argument `body` as JSON, except where the method has
none. -/
def content (method : String) (arguments : List (Value × Value)) :
    Except Json.WriteFault (Option String) :=
  match argument? "body" arguments with
  | none => .ok none
  | some body =>
    if method == "GET" then .ok none
    else (Json.write .line body).map fun s => some (String.ofList s)

-- ============================================================ execution

/-- What becomes of a call before anything is sent: an outcome that needs no
request, or a request. -/
inductive Plan where
  | settled (o : Outcome)
  | send (r : Request)
  deriving Repr

/-- The outcome of a call that no response was had for. -/
def unanswered (e : Endpoint) (method url error : String) : Outcome :=
  { success := false, data := .null, error := some error
    statusCode := none, endpoint := e.name, method := method
    url := some url }

/-- The wording for parameters of the path that have no argument. -/
def missingMessage (names : List String) : String :=
  "Missing required path parameter(s): " ++ ", ".intercalate names

/-- Plans a call. Path parameters without an argument settle it, and so does
a body that JSON cannot hold; in the URL or the query such a value is a
failure. -/
def plan (engine : Engine) (e : Endpoint) (arguments : Value) :
    Except Failure Plan := do
  let given := argumentsOf arguments
  let method := String.ofList (upper e.method.toList)
  let (filled, missing) ← engine.url e given
  let address := String.ofList filled
  if !missing.isEmpty then
    return .settled (unanswered e method address (missingMessage missing))
  let headers ← engine.headers
  let query ← query e given
  match content method given with
  | .error fault =>
    return .settled (unanswered e method address fault.message)
  | .ok content =>
    return .send ⟨method, address, headers, query, content⟩

/-- The outcome of a request that was sent. There is none if the body of the
response cannot be read at all. -/
def settle (e : Endpoint) (r : Request) :
    Except Trouble Response → Except Failure Outcome
  | .error trouble => .ok (unanswered e r.method r.url trouble.text)
  | .ok response => do
    return {
      success := response.isSuccess, data := ← response.data
      error := response.error?, statusCode := some response.status
      endpoint := e.name, method := r.method, url := some r.url }

/-- Calls an endpoint, with `send` for what is sent. -/
def execute {m : Type → Type} [Monad m]
    (send : Request → m (Except Trouble Response)) (engine : Engine)
    (e : Endpoint) (arguments : Value) : m (Except Failure Outcome) :=
  match engine.plan e arguments with
  | .error failure => pure (.error failure)
  | .ok (.settled outcome) => pure (.ok outcome)
  | .ok (.send request) => do
    return settle e request (← send request)

end Engine

end Toolsmith
