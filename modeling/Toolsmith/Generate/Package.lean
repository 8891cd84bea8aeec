/-
The files of an installable package around the source of a tool server: the
list of what it depends on, the source, and a guide. `archive` flattens them
into one text.
-/
import Toolsmith.Generate.JavaScript
import Toolsmith.Generate.Python

namespace Toolsmith.Generate

/-- The languages that servers are generated in. -/
inductive Target where
  | javascript
  | python
  deriving DecidableEq, Repr

namespace Target

/-- The word for a target. -/
def name : Target → String
  | javascript => "javascript"
  | python => "python"

/-- All targets. -/
def all : List Target := [javascript, python]

/-- The target that a word names. -/
def ofName? (name : String) : Option Target :=
  all.find? fun t => t.name == name

/-- The file that holds the source. -/
def filename : Target → String
  | javascript => "index.js"
  | python => "server.py"

/-- The source of a server. -/
def source (s : Server) : Target → String
  | javascript => JavaScript.source s
  | python => Python.source s

/-- The commands that install a package and run it. -/
def commands : Target → String × String
  | javascript => ("npm install", "npm start")
  | python => ("pip install -r requirements.txt", "python server.py")

end Target

/-- The source of a server for every target. -/
def sources (s : Server) : List (String × String) :=
  Target.all.map fun t => (t.name, t.source s)

-- =========================================================== manifests

/-- The manifest of a JavaScript package as a value. -/
def packageManifest (s : Server) : Value :=
  .ofFields
    [("name", .text ("mcp-" ++ s.id)),
     ("version", .text "1.0.0"),
     ("description", .text s.description),
     ("main", .text "index.js"),
     ("type", .text "module"),
     ("scripts", .ofFields [("start", .text "node index.js")]),
     ("dependencies",
       .ofFields [("@modelcontextprotocol/sdk", .text "^1.0.0")]),
     ("bin", .ofFields [("mcp-" ++ s.id, .text "./index.js")])]

/-- The file that lists what a package depends on: its name and its
content. -/
def manifest (s : Server) : Target → String × String
  | .javascript =>
    ("package.json",
      match Json.write .manifest (packageManifest s) with
      | .ok text => String.ofList text
      | .error _ => "")
  | .python => ("requirements.txt", "mcp>=1.2,<2\nhttpx>=0.27\n")

-- =============================================================== guide

/-- The line of the guide about a parameter. -/
def guideParam (p : Param) : List Char :=
  "  - \x60".toList ++ p.name.toList ++ "\x60 (".toList ++ p.type.toList
    ++ [')'] ++ (if p.required then " *required*" else "").toList
    ++ ": ".toList
    ++ ((given? p.description).getD "No description").toList

/-- The section of the guide about an endpoint. -/
def guideEndpoint (e : Endpoint) : Lines :=
  [[], "### ".toList ++ e.name.toList, [], e.description.toList, [],
   "- **Method**: ".toList ++ e.method.toList,
   "- **Path**: ".toList ++ e.path.toList,
   "- **Parameters**:".toList]
    ++ (if e.parameters.isEmpty then fixed ["  - None"]
        else e.parameters.map guideParam)

/-- The guide to a package. -/
def guide (s : Server) (t : Target) : String :=
  let (install, start) := t.commands
  render
    (["# ".toList ++ s.name.toList ++ " MCP Server".toList, [],
      s.description.toList]
      ++ fixed ["", "## Installation", "", "\x60\x60\x60bash", install,
        "\x60\x60\x60", "", "## Usage", "", "\x60\x60\x60bash", start,
        "\x60\x60\x60", "", "## Available Tools"]
      ++ s.endpoints.flatMap guideEndpoint
      ++ fixed ["", "## Configuration", ""]
      ++ ["Requests go to \x60".toList ++ s.baseUrl.toList
            ++ "\x60 by default. Set the \x60API_BASE_URL\x60".toList]
      ++ fixed
        ["environment variable to point the server at another deployment."])

-- ============================================================= packages

/-- The source in the package: the one that the server keeps, or a new
one. -/
def packagedSource (s : Server) (t : Target) : String :=
  (given? (s.codeFor t.name)).getD (t.source s)

/-- The files of a package with their contents, in order. -/
def package (s : Server) (t : Target) : List (String × String) :=
  [manifest s t, (t.filename, packagedSource s t), ("README.md", guide s t)]

/-- The files of a package as one text: each one under its name. -/
def archive (s : Server) (t : Target) : String :=
  "\n\n".intercalate ((package s t).map fun (name, content) =>
    "=== " ++ name ++ " ===\n" ++ content ++ "\n")

/-- The target that a word names, which has to be one. -/
def requireTarget (name : String) : Except Failure Target :=
  match Target.ofName? name with
  | some t => .ok t
  | none => .error (.target name)

end Toolsmith.Generate
