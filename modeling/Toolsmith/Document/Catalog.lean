/-
The catalog of a document: its operations, in order, as endpoints whose ids
and names are distinct.
-/
import Toolsmith.Document.Parameters
import Toolsmith.Log
import Toolsmith.Naming
import Toolsmith.Text.Case

namespace Toolsmith.Document

open Text

/-- The verbs of the operations of a path. -/
def verbs : List String :=
  ["get", "post", "put", "delete", "patch", "options", "head", "trace"]

/-- An operation as the document has it: its path, the item of the path,
the key with the verb, and what stands under the key. -/
structure Operation where
  path : Value
  item : Value
  verb : String
  body : Value

/-- The verb in lower case. -/
def Operation.lowerVerb (op : Operation) : List Char := lower op.verb.toList

/-- The verb in upper case. -/
def Operation.method (op : Operation) : List Char := upper op.verb.toList

/-- A key of a path item that is a verb in any case. -/
def verb? (key : Value) : Option String :=
  key.text?.filter fun s => verbs.contains (String.ofList (lower s.toList))

/-- The operations of one path. -/
def itemOperations (d : Document) (path item : Value) : List Operation :=
  match d.look item with
  | .map entries =>
    entries.filterMap fun (key, body) =>
      match verb? key with
      | some verb => if body.isMap then some ⟨path, item, verb, body⟩ else none
      | none => none
  | _ => []

/-- The operations of a document, path by path. -/
def operations (d : Document) : Except Failure (List Operation) :=
  let paths := d.field "paths"
  if !paths.isTruthy then .ok []
  else
    match d.look paths with
    | .map entries =>
      .ok (entries.flatMap fun (path, item) => d.itemOperations path item)
    | _ => .error (.misuse .member)

-- ============================================================== drafts

/-- An endpoint whose names may repeat others and whose description is not
checked yet. -/
structure Draft where
  id : List Char
  name : List Char
  method : String
  path : String
  description : Value
  parameters : List Param
  requestBody : Value
  response : Value

/-- The id of an operation. -/
def idOf (d : Document) (op : Operation) : Except Failure (List Char) := do
  return Naming.sanitize (op.lowerVerb ++ '_' :: (← d.display op.path))

/-- The name of an operation: the one it declares, or its id. -/
def nameOf (d : Document) (op : Operation) (id : List Char) :
    Except Failure (List Char) := do
  let declared := d.fieldOf op.body "operationId"
  if declared.isTruthy then
    return Naming.toIdentifier (← d.display declared)
  else return id

/-- The declared parameters of an operation with those of its path. -/
def declaredParameters (d : Document) (op : Operation) :
    Except Failure (List Value) := do
  let list (v : Value) : Except Failure (List Value) := do
    let listed := (d.fieldOf v "parameters").orElse (.list [])
    return (← itemsOf (d.look listed)).filterMap d.inlined
  d.merged (← list op.item) (← list op.body)

/-- The text that describes an operation: its summary, its description, or
else its method and path. -/
def descriptionOf (d : Document) (op : Operation) (path : String) : Value :=
  (d.fieldOf op.body "summary").orElse
    ((d.fieldOf op.body "description").orElse
      (.text (String.ofList op.method ++ " " ++ path)))

/-- The draft of an operation. Its path has to be a text. -/
def draft (d : Document) (op : Operation) : Except Failure Draft := do
  let id ← d.idOf op
  let name ← d.nameOf op id
  let declared ← d.declaredParameters op
  match op.path with
  | .text path =>
    let params ← d.parameters declared path
    return {
      id := id
      name := name
      method := String.ofList op.method
      path := path
      description := d.descriptionOf op path
      parameters := params
      requestBody := d.whole (d.fieldOf op.body "requestBody")
      response := d.whole (d.fieldOf op.body "responses") }
  | _ => .error (.misuse .kind)

-- ============================================================= catalog

/-- The endpoint of a draft under its final id and name. -/
def Draft.endpoint (draft : Draft) (id name : List Char) :
    Except Failure Endpoint := do
  let description ← Failure.ofChecked "Endpoint"
    ((Shape.text draft.description).under "description")
  return {
    id := String.ofList id
    name := String.ofList name
    method := draft.method
    path := draft.path
    description := description
    parameters := draft.parameters
    requestBody := draft.requestBody
    response := draft.response }

/-- The report about a name that had to change. -/
def renamed (old new : List Char) : List Log.Entry :=
  if old == new then []
  else
    [⟨.warning, "Renamed duplicate tool " ++ String.ofList old ++ " -> "
      ++ String.ofList new⟩]

/-- The drafts with their final ids and names. -/
def finalNames (drafts : List Draft) :
    List (Draft × List Char × List Char) :=
  drafts.zip ((Naming.deduplicate (drafts.map (·.id))).zip
    (Naming.deduplicate (drafts.map (·.name))))

/-- The endpoints of a document, and the reports about changed names. -/
def catalog (d : Document) :
    Except Failure (List Endpoint × List Log.Entry) := do
  let drafts ← (← d.operations).mapM d.draft
  let named := finalNames drafts
  let endpoints ← named.mapM fun (draft, id, name) => draft.endpoint id name
  return (endpoints, named.flatMap fun (draft, _, name) =>
    renamed draft.name name)

end Toolsmith.Document
