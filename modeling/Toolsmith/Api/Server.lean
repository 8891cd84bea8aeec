/-
A server: the catalog of an API's endpoints with the names and texts around
it, the code generated for it, and its credentials. Servers do not change;
the functions that adjust one give a new one.
-/
import Toolsmith.Api.Auth
import Toolsmith.Api.Endpoint
import Toolsmith.Failure

namespace Toolsmith

/-- How far a server is. -/
inductive Status where
  | generating
  | ready
  | error
  deriving DecidableEq, Repr

/-- The word for a status. -/
def Status.name : Status → String
  | generating => "generating"
  | ready => "ready"
  | error => "error"

/-- The statuses by their words. -/
def Status.words : List (String × Status) :=
  [generating, ready, error].map fun s => (s.name, s)

/-- A server. The code is kept by target. -/
structure Server where
  id : String
  name : String
  description : String
  version : String
  baseUrl : String
  endpoints : List Endpoint
  status : Status
  code : List (String × String)
  auth : Option Auth
  deriving Repr

namespace Server

open Shape in
/-- Reads a server from a record. -/
def check : Check Server := record fun es =>
  Server.mk <$> field ["id"] text es
    <*> field ["name"] text es
    <*> field ["description"] text es
    <*> fieldOr ["version"] "1.0.0" text es
    <*> field ["base_url"] text es
    <*> field ["endpoints"] (listOf Endpoint.check) es
    <*> fieldOr ["status"] .generating (oneOf Status.words) es
    <*> fieldOr ["code"] [] (mapOf text) es
    <*> fieldOr ["auth_config"] none (optional Auth.check) es

/-- The fields of a server by name. -/
def fieldNames : List String :=
  ["id", "name", "description", "version", "base_url", "endpoints",
   "status", "code", "auth_config"]

/-- The server as ready. -/
def markReady (s : Server) : Server := { s with status := .ready }

/-- The server as faulty. -/
def markError (s : Server) : Server := { s with status := .error }

/-- The server at another base URL; an empty one changes nothing. -/
def withBaseUrl (url : Option String) (s : Server) : Server :=
  match given? url with
  | some url => { s with baseUrl := url }
  | none => s

/-- The server with other credentials. -/
def withAuth (auth : Option Auth) (s : Server) : Server :=
  { s with auth := auth }

/-- The names of the endpoints, in order. -/
def endpointNames (s : Server) : List String := s.endpoints.map (·.name)

/-- The code kept for a target. -/
def codeFor (s : Server) (target : String) : Option String :=
  (s.code.find? (·.1 == target)).map (·.2)

/-- Setting a field in place is refused. A name that begins with an
underscore is no field, and setting it leaves the server as it is. -/
def assign (field : String) (s : Server) : Except Failure Server :=
  if field.toList.head? == some '_' then .ok s
  else .error (.shape "Server" [⟨[field], .frozenInstance⟩])

end Server

end Toolsmith
