/-
The parameters of an operation. The tokens in its path come first; then the
declared parameters follow, except those that a token has made already.
-/
import Toolsmith.Api.Endpoint
import Toolsmith.Document.Basic
import Toolsmith.Value.Literal

namespace Toolsmith.Document

open Text

-- ============================================================== tokens

/-- The name in braces at the start of a text: at least one character, none
of them a closing brace. -/
def tokenAt? : List Char → Option (List Char)
  | '\x7b' :: rest =>
    let name := rest.takeWhile (· != '\x7d')
    if !name.isEmpty && name.length < rest.length then some name else none
  | _ => none

/-- The names in braces in a text; `skip` characters belong to the name
found last. -/
def tokensFrom : Nat → List Char → List (List Char)
  | _, [] => []
  | skip + 1, _ :: rest => tokensFrom skip rest
  | 0, c :: rest =>
    match tokenAt? (c :: rest) with
    | some name => name :: tokensFrom (name.length + 1) rest
    | none => tokensFrom 0 rest

/-- The tokens of a path: the names in braces, from the left and without
overlap. -/
def pathTokens (path : List Char) : List (List Char) := tokensFrom 0 path

/-- The tokens of a path, each once. -/
def distinctTokens (path : String) : List String :=
  firstOccurrences ((pathTokens path.toList).map String.ofList)

/-- The parameter that a token makes. -/
def tokenParam (token : String) : Param :=
  { name := token
    type := "string"
    required := true
    description := some s!"Path parameter: {token}"
    location := .path }

-- ============================================================ declared

/-- The type that a schema gives a parameter. -/
def schemaType (d : Document) (schema : Value) : Except Failure String :=
  if schema.isMap then
    let type := d.fieldOf schema "type"
    if type.isTruthy then d.displayString type
    else if (d.fieldOf? schema "$ref").isSome then .ok "object"
    else .ok "string"
  else .ok "string"

/-- The location that a declaration gives: the query if it gives none, and
`none` if it gives one that no tool input has. -/
def declaredLocation? (declared : Value) : Option Location :=
  if declared.isTruthy then
    declared.text?.bind Location.ofName?
  else some .query

/-- Reads one declared parameter. There is none if its name or its schema
is missing, if it has no place among the inputs of a tool, or if it repeats
a token of the path. -/
def declaredParam (d : Document) (tokens : List String) (declared : Value) :
    Except Failure (Option Param) :=
  let name := d.fieldOf declared "name"
  let schema := d.fieldOf declared "schema"
  if !(declared.isMap && name.isTruthy && schema.isTruthy) then .ok none
  else
    match declaredLocation? (d.fieldOf declared "in") with
    | none => .ok none
    | some location =>
      let repeats :=
        location == .path && (name.text?.map tokens.contains).getD false
      if repeats then .ok none
      else do
        let type ← d.schemaType schema
        let description := d.fieldOf declared "description"
        let param (name : String) (description : Option String) : Param :=
          { name := name
            type := type
            required := (d.fieldOf declared "required").isTruthy
            description := description
            location := location }
        some <$> Failure.ofChecked "Param"
          (param <$> (Shape.text name).under "name"
            <*> (Shape.optional Shape.text description).under "description")

/-- The parameters of an operation: those of the path's tokens, then the
declared ones. -/
def parameters (d : Document) (declared : List Value) (path : String) :
    Except Failure (List Param) := do
  let tokens := distinctTokens path
  let further ← declared.mapM (d.declaredParam tokens)
  return tokens.map tokenParam ++ further.filterMap id

-- ========================================================== references

/-- Reads a value item by item. What a mapping or a text gives is no
mapping. -/
def itemsOf : Value → Except Failure (List Value)
  | .list items => .ok items
  | .set items => .ok items
  | .map entries => .ok (entries.map (·.1))
  | .text s => .ok (s.toList.map fun c => .text (String.singleton c))
  | .bytes octets => .ok (octets.map fun o => .int o.toNat)
  | .pair a b => .ok [a, b]
  | _ => .error (.misuse .kind)

/-- The value that a list of keys leads to, one mapping after the other. -/
def follow (d : Document) : List (List Char) → Value → Option Value
  | [], v => some v
  | key :: rest, v =>
    (d.fieldOf? v (String.ofList key)).bind (d.follow rest)

/-- The mapping in the document that a reference names. -/
def resolve? (d : Document) (ref : Value) : Option Value := do
  let s ← ref.text?
  let path ← after? "#/".toList s.toList
  let target ← d.follow (splitAt '/' path) d.web.root
  if target.isMap then some target else none

/-- A declared parameter, or the one it refers to; a reference that leads
nowhere is dropped. -/
def inlined (d : Document) (declared : Value) : Option Value :=
  match d.fieldOf? declared "$ref" with
  | some ref => d.resolve? ref
  | none => some declared

/-- The name and the location of a declared parameter, which both have to
be fit for keys. -/
def identity (d : Document) (declared : Value) :
    Except Failure (Value × Value) :=
  let name := d.fieldOf declared "name"
  let location := d.fieldOf declared "in"
  if name.isKey && location.isKey then .ok (name, location)
  else .error (.misuse .kind)

/-- Two identities are one. -/
def sameIdentity (a b : Value × Value) : Bool :=
  a.1.sameKey b.1 && a.2.sameKey b.2

/-- The parameters shared by a path and those of one operation; where both
declare the same one, the operation's own stays. -/
def merged (d : Document) (shared own : List Value) :
    Except Failure (List Value) := do
  let taken ← (own.filter Value.isMap).mapM d.identity
  let kept ← shared.filterM fun p => do
    if p.isMap then
      let this ← d.identity p
      return !taken.any (sameIdentity this)
    else return true
  return kept ++ own

end Toolsmith.Document
