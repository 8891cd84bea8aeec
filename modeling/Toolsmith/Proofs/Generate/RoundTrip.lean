/-
The names that a generated source declares are the names of the server's
endpoints, unless a text of the document says otherwise: a text that goes on
on another row of the source, behind the mark of its comment, can declare
names of its own.
-/
import Toolsmith.Proofs.Generate.JavaScript

namespace Toolsmith.Generate

open Text

variable {s : Server}

/-- The tools of callable endpoints are declared under names that are
identifiers. -/
theorem isDeclared_of_isCallable (h : ∀ e ∈ s.endpoints, e.IsCallable) :
    ∀ t ∈ tools s, JavaScript.IsDeclared t := by
  rw [tools_of_isCallable h]
  intro t ht
  obtain ⟨e, he, rfl⟩ := List.mem_map.mp ht
  refine ⟨(h e he).id, (h e he).name, ?_, visible_of_isIdentifier (h e he).method⟩
  show Visible ("handle_" ++ e.id).toList
  rw [String.toList_append]
  exact visible_append.mpr
    ⟨by decide, visible_of_isIdentifier (h e he).id⟩

/-- A JavaScript source declares the names of the endpoints, one each and in
order, exactly if neither the title nor a path declares one on rows of its
own. -/
theorem declaredNames_javascript (h : ∀ e ∈ s.endpoints, e.IsCallable) :
    declaredNames (JavaScript.source s) .javascript
        = .ok (s.endpointNames.map .text)
      ↔ forged (defused s.name.toList) = []
        ∧ ∀ e ∈ s.endpoints, forged e.path.toList = [] := by
  have hquoted := JavaScript.quotedNames_source (isDeclared_of_isCallable h)
  rw [tools_of_isCallable h, List.map_map, List.flatMap_map] at hquoted
  unfold declaredNames
  dsimp only
  rw [hquoted]
  constructor
  · intro hread
    -- as many names are read as are declared, so no other one is
    have hlength := (Steps.forall₂_of_mapM hread).length_eq
    simp only [List.length_append, List.length_map, Server.endpointNames]
      at hlength
    refine ⟨List.length_eq_zero_iff.mp (by omega), fun e he => ?_⟩
    have hnone : s.endpoints.flatMap (fun e => forged e.path.toList) = [] :=
      List.length_eq_zero_iff.mp (by
        simp only [Tool.ofEndpoint] at hlength
        omega)
    exact List.flatMap_eq_nil_iff.mp hnone e he
  · rintro ⟨htitle, hpaths⟩
    have hnone : s.endpoints.flatMap (fun e => forged e.path.toList) = [] :=
      List.flatMap_eq_nil_iff.mpr hpaths
    simp only [Tool.ofEndpoint, htitle, hnone, List.nil_append,
      List.append_nil]
    rw [List.mapM_map, Server.endpointNames, List.map_map]
    refine Steps.mapM_eq_ok fun e he => ?_
    show (Json.read (Json.stringText true e.name.toList)).mapError
      Failure.ofJson = _
    rw [Json.read_stringText_name
      (Naming.all_isNameChar_of_isIdentifier (h e he).name)]
    rfl

/-- A document with a title and one operation. -/
def titled (title : String) : Document :=
  let entries : List (Value × Value) :=
    [(.text "info", .ofFields [("title", .text title)]),
     (.text "paths", .ofFields
      [("/a", .ofFields
        [("get", .ofFields [("operationId", .text "a")])])])]
  ⟨.ofValue (.map entries), entries⟩

/-- The server of a document in short: its title, and the names of its
endpoints with their paths. -/
def summary (d : Document) : Option (String × List (String × String)) :=
  d.server.toOption.map fun (s, _) =>
    (s.name, s.endpoints.map fun e => (e.name, e.path))

theorem server_of_summary {d : Document} {title : String}
    {endpoints : List (String × String)}
    (h : summary d = some (title, endpoints)) :
    ∃ s reports, d.server = .ok (s, reports) ∧ s.name = title
      ∧ s.endpoints.map (fun e => (e.name, e.path)) = endpoints := by
  unfold summary at h
  cases hserver : d.server with
  | error failure =>
      rw [hserver] at h
      cases h
  | ok made =>
      rw [hserver] at h
      cases h
      exact ⟨made.1, made.2, rfl, rfl, rfl⟩

/-- A title that goes on with the declaration of a tool on rows of its
own. -/
def forgedTitle : String :=
  "T\nconst x_tool = \x7b\n  name: \"evil\",\n  "

end Toolsmith.Generate
