/-
Endpoints: the operations of an API, each with its parameters, and what can
be read off a parameter list.
-/
import Toolsmith.Shape

namespace Toolsmith

/-- Where a parameter travels in a request. -/
inductive Location where
  | path
  | query
  | header
  | cookie
  deriving DecidableEq, Repr

/-- The word for a location. -/
def Location.name : Location → String
  | path => "path"
  | query => "query"
  | header => "header"
  | cookie => "cookie"

/-- The locations by their words. -/
def Location.words : List (String × Location) :=
  [path, query, header, cookie].map fun l => (l.name, l)

/-- The location that a word names. -/
def Location.ofName? (name : String) : Option Location :=
  (words.find? (·.1 == name)).map (·.2)

/-- One input of an endpoint. -/
structure Param where
  name : String
  type : String
  required : Bool
  description : Option String
  location : Location
  deriving DecidableEq, Repr

/-- One operation of an API. -/
structure Endpoint where
  id : String
  name : String
  method : String
  path : String
  description : String
  parameters : List Param
  requestBody : Value
  response : Value
  deriving Repr, Inhabited

open Shape in
/-- Reads a parameter from a record. -/
def Param.check : Check Param := record fun es =>
  Param.mk <$> field ["name"] text es
    <*> fieldOr ["type"] "string" text es
    <*> fieldOr ["required"] false truth es
    <*> fieldOr ["description"] none (optional text) es
    <*> fieldOr ["in", "location"] .query (oneOf Location.words) es

/-- The texts without repetitions, each at its first place. -/
def firstOccurrences : List String → List String
  | [] => []
  | s :: rest => s :: (firstOccurrences rest).filter (· != s)

namespace Endpoint

open Shape in
/-- Reads an endpoint from a record. -/
def check : Check Endpoint := record fun es =>
  Endpoint.mk <$> field ["id"] text es
    <*> field ["name"] text es
    <*> field ["method"] text es
    <*> field ["path"] text es
    <*> field ["description"] text es
    <*> fieldOr ["parameters"] [] (listOf Param.check) es
    <*> fieldOr ["request_body_schema"] .null anything es
    <*> fieldOr ["response_schema"] .null anything es

/-- The parameters at a location. -/
def paramsAt (e : Endpoint) (l : Location) : List Param :=
  e.parameters.filter fun p => p.location == l

/-- The parameters that fill the path. -/
def pathParams (e : Endpoint) : List Param := e.paramsAt .path

/-- The parameters that make the query. -/
def queryParams (e : Endpoint) : List Param := e.paramsAt .query

/-- The names of the required parameters, each once. -/
def requiredNames (e : Endpoint) : List String :=
  firstOccurrences ((e.parameters.filter (·.required)).map (·.name))

/-- The parameters as one line: names, types, and a star if required. -/
def signature (e : Endpoint) : String :=
  ", ".intercalate (e.parameters.map fun p =>
    s!"{p.name}({p.type}" ++ (if p.required then "*" else "") ++ ")")

end Endpoint

end Toolsmith
