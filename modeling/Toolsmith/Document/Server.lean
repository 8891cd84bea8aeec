/-
A document as a server: its title, version and base URL around its catalog,
with the source for every target.
-/
import Toolsmith.Document.Catalog
import Toolsmith.Generate.Package

namespace Toolsmith.Document

/-- The value at the start of another one. -/
def first : Value → Except Failure Value
  | .list (v :: _) => .ok v
  | .pair a _ => .ok a
  | .text s =>
    match s.toList with
    | c :: _ => .ok (.text (String.singleton c))
    | [] => .error (.misuse .place)
  | .bytes (o :: _) => .ok (.int o.toNat)
  | .map entries =>
    match Value.find? (.int 0) entries with
    | some v => .ok v
    | none => .error (.misuse .key)
  | .list [] | .bytes [] => .error (.misuse .place)
  | _ => .error (.misuse .kind)

/-- The URL of the first server that the document lists. -/
def listedUrl? (d : Document) : Option Value :=
  match d.look (d.field "servers") with
  | .list (server :: _) => some (d.fieldOf server "url") |>.filter (·.isTruthy)
  | _ => none

/-- The URL that stands for a missing one. -/
def placeholderUrl : String := "https://api.example.com"

/-- The base URL: the one of the first listed server, or the one made from
the host, or a placeholder. -/
def baseUrl (d : Document) : Except Failure String :=
  match d.listedUrl? with
  | some url => d.displayString url
  | none => do
    let host := d.field "host"
    if !host.isTruthy then return placeholderUrl
    let schemes := (d.field "schemes").orElse (.list [.text "https"])
    let scheme ← first (d.look schemes)
    let base := (Value.entry? "basePath" d.entries).getD (.text "")
    return (← d.displayString scheme) ++ "://" ++ (← d.displayString host)
      ++ (← d.displayString base)

/-- The facts about an API that its title stands among. -/
def titled (d : Document) : Except Failure Value :=
  let info := d.field "info"
  if info.isMap && (d.fieldOf info "title").isTruthy then .ok info
  else .error (.specification .noTitle)

/-- The document has paths. -/
def requirePaths (d : Document) : Except Failure Unit :=
  let paths := d.field "paths"
  if paths.isMap && paths.isTruthy then .ok ()
  else .error (.specification .noPaths)

/-- The server that a document describes, and what was reported on the
way. -/
def server (d : Document) : Except Failure (Server × List Log.Entry) := do
  let info ← d.titled
  d.requirePaths
  let (endpoints, reports) ← d.catalog
  if endpoints.isEmpty then throw .empty
  let title ← d.displayString (d.fieldOf info "title")
  let version ← d.displayString
    ((d.fieldOf info "version").orElse (.text "1.0.0"))
  let baseUrl ← d.baseUrl
  let described := (d.fieldOf info "description").orElse
    (.text ("MCP Server for " ++ title))
  let description ← Failure.ofChecked "Server"
    ((Shape.text described).under "description")
  let bare : Server :=
    { id := "mcp_" ++ String.ofList (Naming.sanitize title.toList)
      name := title
      description := description
      version := version
      baseUrl := baseUrl
      endpoints := endpoints
      status := .generating
      code := []
      auth := none }
  let normalized : Log.Entry :=
    ⟨.info, s!"Normalized {title}: {endpoints.length} endpoints, base URL "
      ++ baseUrl⟩
  return ({ bare with code := Generate.sources bare },
    reports ++ [normalized] ++ Generate.skipped bare
      ++ Generate.skipped bare)

end Toolsmith.Document
