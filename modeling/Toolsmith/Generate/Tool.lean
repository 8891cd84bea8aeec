/-
Tools: what a generated server declares for each endpoint, whatever the
language of its source, and the shared parts of the sources.
-/
import Toolsmith.Api.Server
import Toolsmith.Log
import Toolsmith.Naming
import Toolsmith.Value.Literal

namespace Toolsmith.Generate

open Text

-- ============================================================= schemas

/-- The arguments that a tool takes: each with its type and description,
and the names of those that have to be given. -/
structure Schema where
  properties : List (String × String × String)
  required : List String
  deriving DecidableEq, Repr

namespace Schema

/-- Adds a parameter, unless its name has a property already. -/
def add (properties : List (String × String × String)) (p : Param) :
    List (String × String × String) :=
  if properties.any (·.1 == p.name) then properties
  else
    properties ++ [(p.name, p.type, (given? p.description).getD p.name)]

/-- The schema of an endpoint's arguments. Of parameters with one name the
first one counts. -/
def ofEndpoint (e : Endpoint) : Schema :=
  { properties := e.parameters.foldl add []
    required := e.requiredNames }

/-- The schema as a value. -/
def toValue (s : Schema) : Value :=
  .ofFields
    [("type", .text "object"),
     ("properties", .ofFields (s.properties.map fun (name, type, text) =>
       (name, .ofFields [("type", .text type), ("description", .text text)]))),
     ("required", .list (s.required.map .text))]

/-- The schema as JSON on one line. -/
def json (s : Schema) : List Char :=
  match Json.write .line s.toValue with
  | .ok text => text
  | .error _ => []

end Schema

-- =============================================================== tools

/-- A tool: its name, the key that its constants are named after, its
handler, and what the handler does. -/
structure Tool where
  name : String
  key : String
  handler : String
  description : String
  schema : Schema
  method : String
  path : String
  pathParams : List String
  queryParams : List String
  sendsBody : Bool
  deriving DecidableEq, Repr

/-- The tool of an endpoint. -/
def Tool.ofEndpoint (e : Endpoint) : Tool :=
  { name := e.name
    key := e.id
    handler := "handle_" ++ e.id
    description := e.description
    schema := .ofEndpoint e
    method := e.method
    path := e.path
    pathParams := firstOccurrences (e.pathParams.map (·.name))
    queryParams := firstOccurrences (e.queryParams.map (·.name))
    sendsBody := e.method != "GET" }

/-- An endpoint has all that a declaration needs. -/
def isDeclarable (e : Endpoint) : Bool :=
  e.method != "" && e.id != "" && e.name != ""

/-- The tools of a server, in the order of its catalog. -/
def tools (s : Server) : List Tool :=
  (s.endpoints.filter isDeclarable).map .ofEndpoint

/-- The reports about endpoints that get no tool. -/
def skipped (s : Server) : List Log.Entry :=
  (s.endpoints.filter (!isDeclarable ·)).map fun e =>
    ⟨.warning, "Skipping endpoint without method/id/name: "
      ++ String.ofList (literalText e.path.toList)⟩

-- ============================================================= sources

/-- The lines of a source; a line may hold breaks of its own. -/
abbrev Lines := List (List Char)

/-- Lines that do not depend on the server. -/
def fixed (lines : List String) : Lines := lines.map String.toList

/-- The lines as one text, each with a break behind it. -/
def render (lines : Lines) : String :=
  String.ofList (lines.flatMap (· ++ ['\n']))

/-- What a generated server calls itself towards the API. -/
def userAgent : String := "MCP-Server/1.0"

/-- The name that a generated server takes from its title. -/
def packageName (s : Server) : String :=
  String.ofList (Naming.sanitize s.name.toList)

/-- A name in braces, as it stands in a path. -/
def braced (name : String) : String := "\x7b" ++ name ++ "\x7d"

end Toolsmith.Generate
