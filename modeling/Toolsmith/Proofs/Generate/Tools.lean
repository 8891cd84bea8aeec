/-
What a tool declares about the parameters of its endpoint. Four lists are read
off one list of parameters: the names in the path, those in the query, those
that are required, and the properties of the schema. A name may stand in that
list several times, in several locations; each of the four has it once at most,
and the properties have all of them. Adding a parameter to the properties is
the one step: it changes nothing if the name is there, and puts it at the end
if not.
-/
import Mathlib.Data.List.Induction
import Toolsmith.Proofs.Document.Parameters
import Toolsmith.Proofs.Generate.Callable

namespace Toolsmith.Generate

open Document (pathTokens)

-- ========================================================== properties

namespace Schema

/-- The names of the arguments, in order. -/
def keys (s : Schema) : List String := s.properties.map (·.1)

/-- A name that is there already gets no second property. -/
theorem add_of_mem {properties : List (String × String × String)} {p : Param}
    (h : p.name ∈ properties.map (·.1)) : add properties p = properties := by
  obtain ⟨property, hmem, hname⟩ := List.mem_map.mp h
  unfold add
  rw [if_pos]
  exact List.any_eq_true.mpr ⟨property, hmem, beq_iff_eq.mpr hname⟩

/-- A new name gets a property behind the others. -/
theorem map_fst_add_of_not_mem {properties : List (String × String × String)}
    {p : Param} (h : p.name ∉ properties.map (·.1)) :
    (add properties p).map (·.1) = properties.map (·.1) ++ [p.name] := by
  unfold add
  rw [if_neg, List.map_append]
  · rfl
  intro hany
  obtain ⟨property, hmem, hname⟩ := List.any_eq_true.mp hany
  exact h (List.mem_map.mpr ⟨property, hmem, beq_iff_eq.mp hname⟩)

/-- The arguments of a schema are the names of the parameters, each at the
place where it occurs first. -/
theorem keys_ofEndpoint (e : Endpoint) :
    (ofEndpoint e).keys = (e.parameters.map (·.name)).eraseDups := by
  show (e.parameters.foldl add []).map (·.1) = _
  induction e.parameters using List.reverseRecOn with
  | nil => rfl
  | append_singleton params p ih =>
      rw [List.foldl_concat, List.map_append, List.eraseDups_append, ← ih,
        List.map_singleton, List.cons_removeAll, List.nil_removeAll]
      have hmem : p.name ∈ (params.foldl add []).map (·.1)
          ↔ p.name ∈ params.map (·.name) := by
        rw [ih, List.mem_eraseDups]
      by_cases h : p.name ∈ params.map (·.name)
      · rw [add_of_mem (hmem.mpr h), if_neg (by simpa using h)]
        exact (List.append_nil _).symm
      · rw [map_fst_add_of_not_mem (mt hmem.mp h), if_pos (by simpa using h)]
        rfl

/-- Every name of a parameter is an argument. -/
theorem mem_keys_ofEndpoint {e : Endpoint} {name : String} :
    name ∈ (ofEndpoint e).keys ↔ ∃ p ∈ e.parameters, p.name = name := by
  rw [keys_ofEndpoint, List.mem_eraseDups, List.mem_map]

/-- The names of some of the parameters, each once, are arguments. -/
theorem firstOccurrences_subset_keys (e : Endpoint) (keep : Param → Bool) :
    firstOccurrences ((e.parameters.filter keep).map (·.name))
      ⊆ (ofEndpoint e).keys := by
  intro name hname
  obtain ⟨p, hp, heq⟩ := List.mem_map.mp (mem_firstOccurrences.mp hname)
  exact mem_keys_ofEndpoint.mpr ⟨p, (List.mem_filter.mp hp).1, heq⟩

end Schema

-- =============================================================== tools

/-- A tool tells all about the parameters of its endpoint, and all its parts
agree. -/
structure Tool.Declares (t : Tool) (e : Endpoint) : Prop where
  name : t.name = e.name
  key : t.key = e.id
  /-- A token of the path fills it, once, and has to be given. -/
  tokens : ∀ token ∈ (pathTokens e.path.toList).map String.ofList,
    t.pathParams.count token = 1
      ∧ token ∈ t.schema.keys ∧ token ∈ t.schema.required
  pathParams : t.pathParams.Nodup ∧ t.pathParams ⊆ t.schema.keys
  queryParams : t.queryParams.Nodup ∧ t.queryParams ⊆ t.schema.keys
  required : t.schema.required.Nodup ∧ t.schema.required ⊆ t.schema.keys
  /-- The arguments are the parameters, each where it comes first. -/
  keys : t.schema.keys = (e.parameters.map (·.name)).eraseDups

/-- The tool of an endpoint declares its parameters if those of the tokens in
its path are among them. -/
theorem declares_ofEndpoint {e : Endpoint} {further : List Param}
    (h : e.parameters
      = (Document.distinctTokens e.path).map Document.tokenParam ++ further) :
    (Tool.ofEndpoint e).Declares e where
  name := rfl
  key := rfl
  tokens := by
    intro token htoken
    have hparam : Document.tokenParam token ∈ e.parameters := by
      rw [h]
      refine List.mem_append_left _ (List.mem_map_of_mem ?_)
      exact Document.mem_distinctTokens.mpr htoken
    have hnamed : ∀ keep : Param → Bool, keep (Document.tokenParam token) →
        token
          ∈ firstOccurrences ((e.parameters.filter keep).map (·.name)) :=
      fun keep hkeep => mem_firstOccurrences.mpr
        (List.mem_map.mpr ⟨_, List.mem_filter.mpr ⟨hparam, hkeep⟩, rfl⟩)
    exact ⟨List.count_eq_one_of_mem (nodup_firstOccurrences _)
        (hnamed (·.location == .path) rfl),
      Schema.mem_keys_ofEndpoint.mpr ⟨_, hparam, rfl⟩,
      hnamed (·.required) rfl⟩
  pathParams :=
    ⟨nodup_firstOccurrences _, Schema.firstOccurrences_subset_keys e _⟩
  queryParams :=
    ⟨nodup_firstOccurrences _, Schema.firstOccurrences_subset_keys e _⟩
  required :=
    ⟨nodup_firstOccurrences _, Schema.firstOccurrences_subset_keys e _⟩
  keys := Schema.keys_ofEndpoint e

/-- Whatever document a server is made from: its endpoints are the catalog of
the document, each gets one tool, in order, and each tool declares the
parameters of its endpoint. -/
theorem server_tools {d : Document} {s : Server} {reports : List Log.Entry}
    (h : d.server = .ok (s, reports)) :
    (∃ found, d.catalog = .ok (s.endpoints, found))
      ∧ skipped s = []
      ∧ List.Forall₂ Tool.Declares (tools s) s.endpoints := by
  obtain ⟨⟨found, hcatalog⟩, -⟩ := Document.catalog_of_server h
  obtain ⟨hcallable, -⟩ := Document.server_eq_ok h
  refine ⟨⟨found, hcatalog⟩, skipped_of_isCallable hcallable, ?_⟩
  rw [tools_of_isCallable hcallable, List.forall₂_map_left_iff,
    List.forall₂_same]
  intro e he
  obtain ⟨_, hparams, -⟩ := Document.parameters_of_mem_catalog hcatalog he
  exact declares_ofEndpoint hparams

/-- A document whose one path has a token twice. The operation declares the
name of the token in the query and as a header too, another name in three
locations, required in the second one only, and a name in the path that is no
token. -/
def shared : Document :=
  let declare (name location : String) (required : Bool) : Value :=
    .ofFields
      [("name", .text name), ("in", .text location),
       ("required", .bool required),
       ("schema", .ofFields [("type", .text "integer")])]
  let entries : List (Value × Value) :=
    [(.text "info", .ofFields [("title", .text "T")]),
     (.text "paths", .ofFields
      [("/\x7bid\x7d/of/\x7bid\x7d", .ofFields
        [("get", .ofFields
          [("operationId", .text "a"),
           ("parameters", .list
            [declare "id" "query" false, declare "id" "header" false,
             declare "q" "header" false, declare "q" "query" true,
             declare "t" "path" false, declare "q" "path" false])])])])]
  ⟨.ofValue (.map entries), entries⟩

/-- The four lists of names that a tool declares. -/
def declaredLists (t : Tool) :
    List String × List String × List String × List String :=
  (t.pathParams, t.queryParams, t.schema.required, t.schema.keys)

/-- The tool of this document has each name once in every list. -/
theorem server_tools_shared :
    ∃ s reports, shared.server = .ok (s, reports)
      ∧ (∃ found, shared.catalog = .ok (s.endpoints, found))
      ∧ skipped s = []
      ∧ List.Forall₂ Tool.Declares (tools s) s.endpoints
      ∧ (tools s).map declaredLists
        = [(["id", "t", "q"], ["id", "q"], ["id", "q"],
          ["id", "q", "t"])] := by
  have hrun : shared.server.toOption.map
        (fun made => (tools made.1).map declaredLists)
      = some [(["id", "t", "q"], ["id", "q"], ["id", "q"],
          ["id", "q", "t"])] := by
    decide +kernel
  cases h : shared.server with
  | error failure => rw [h] at hrun; cases hrun
  | ok made =>
      rw [h] at hrun
      obtain ⟨hcatalog, hskipped, htools⟩ := server_tools h
      exact ⟨made.1, made.2, rfl, hcatalog, hskipped, htools,
        Option.some.inj hrun⟩

end Toolsmith.Generate
