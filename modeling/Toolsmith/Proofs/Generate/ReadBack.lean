/-
What a generated package says, read back. The literals of a source stand for
the texts that they were made from, the schema of a tool is read as the schema,
and the list of what a package depends on is JSON, whatever its server is
called. Of the values that are written no more is asked than that they go no
deeper than the reader does, and these go three levels deep.
-/
import Toolsmith.Generate.Check
import Toolsmith.Proofs.Generate.Tools
import Toolsmith.Proofs.Json.ReadBack
import Toolsmith.Proofs.Script.Literal

namespace Toolsmith.Generate

open Text Generate.Outline

-- ============================================================= schemas

/-- No text of the parameter has the halves of a pair side by side. -/
structure IsUnpaired (p : Param) : Prop where
  name : Unpaired p.name.toList
  type : Unpaired p.type.toList
  description : ∀ text, p.description = some text → Unpaired text.toList

/-- The properties of a schema that can be read back: no name has two, and
their texts come back as they are. -/
structure AreReadBack (properties : List (String × String × String)) :
    Prop where
  keys : (properties.map (·.1)).Nodup
  names : ∀ q ∈ properties, Unpaired q.1.toList
  texts : ∀ q ∈ properties, Unpaired q.2.1.toList ∧ Unpaired q.2.2.toList

/-- One parameter more does not change that. -/
theorem AreReadBack.add {properties : List (String × String × String)}
    {p : Param} (h : AreReadBack properties) (hp : IsUnpaired p) :
    AreReadBack (Schema.add properties p) := by
  by_cases hmem : p.name ∈ properties.map (·.1)
  · rw [Schema.add_of_mem hmem]
    exact h
  have htext : Unpaired ((given? p.description).getD p.name).toList := by
    unfold given?
    cases hdescription : p.description with
    | none => exact hp.name
    | some text =>
        have hunpaired := hp.description text hdescription
        rw [Option.filter_some]
        split
        · exact hunpaired
        · exact hp.name
  have hadd : Schema.add properties p = properties
      ++ [(p.name, p.type, (given? p.description).getD p.name)] := by
    unfold Schema.add
    rw [if_neg]
    intro hany
    obtain ⟨q, hq, hname⟩ := List.any_eq_true.mp hany
    exact hmem (List.mem_map.mpr ⟨q, hq, eq_of_beq hname⟩)
  constructor
  · rw [Schema.map_fst_add_of_not_mem hmem]
    exact List.nodup_append.mpr ⟨h.keys, List.nodup_singleton _, by
      intro a ha b hb heq
      rw [List.mem_singleton.mp hb] at heq
      exact hmem (heq ▸ ha)⟩
  · rw [hadd]
    exact List.forall_mem_append.mpr ⟨h.names, by simpa using hp.name⟩
  · rw [hadd]
    exact List.forall_mem_append.mpr
      ⟨h.texts, by simpa using ⟨hp.type, htext⟩⟩

/-- The properties of an endpoint's schema can be read back. -/
theorem areReadBack_ofEndpoint {e : Endpoint}
    (h : ∀ p ∈ e.parameters, IsUnpaired p) :
    AreReadBack (Schema.ofEndpoint e).properties := by
  refine List.foldlRecOn e.parameters Schema.add
    (motive := AreReadBack) ?_ ?_
  · exact ⟨List.nodup_nil, by simp, by simp⟩
  · exact fun properties hproperties p hp => hproperties.add (h p hp)

/-- A mapping under names that do not depend on anything. -/
theorem faithful_named (names : List String) (hkeys : names.Nodup)
    (hunpaired : ∀ name ∈ names, Unpaired name.toList)
    {fields : List (String × Value)} (hnames : fields.map Prod.fst = names)
    (h : ∀ e ∈ fields, Json.Faithful e.2) :
    Json.Faithful (.ofFields fields) := by
  rw [← hnames] at hkeys hunpaired
  exact .fields hkeys (fun e he => hunpaired e.1 (List.mem_map_of_mem he)) h

/-- A schema whose properties can be read back is a faithful value. -/
theorem faithful_toValue {s : Schema} (h : AreReadBack s.properties)
    (hrequired : ∀ name ∈ s.required, Unpaired name.toList) :
    Json.Faithful s.toValue := by
  refine faithful_named ["type", "properties", "required"] (by decide)
    (by decide) rfl ?_
  simp only [List.forall_mem_cons, List.not_mem_nil, false_implies,
    implies_true, and_true]
  refine ⟨.text (by decide), .fields ?_ ?_ ?_, .list ?_⟩
  · rw [List.map_map]
    exact h.keys
  · intro e he
    obtain ⟨q, hq, rfl⟩ := List.mem_map.mp he
    exact h.names q hq
  · intro e he
    obtain ⟨q, hq, rfl⟩ := List.mem_map.mp he
    refine faithful_named ["type", "description"] (by decide) (by decide) rfl
      ?_
    simp only [List.forall_mem_cons, List.not_mem_nil, false_implies,
      implies_true, and_true]
    exact ⟨.text (h.texts q hq).1, .text (h.texts q hq).2⟩
  · intro v hv
    obtain ⟨name, hname, rfl⟩ := List.mem_map.mp hv
    exact .text (hrequired name hname)

/-- How deep a mapping from texts goes. -/
theorem nesting_ofFields_le {fields : List (String × Value)} {n : Nat}
    (h : ∀ e ∈ fields, Json.nesting e.2 ≤ n) :
    Json.nesting (.ofFields fields) ≤ n + 1 := by
  rw [Value.ofFields, Json.nesting, Nat.add_le_add_iff_right,
    Json.deepestEntry_le_iff]
  intro e he
  obtain ⟨field, hfield, rfl⟩ := List.mem_map.mp he
  exact h field hfield

theorem nesting_toValue_le (s : Schema) : Json.nesting s.toValue ≤ 3 := by
  refine nesting_ofFields_le ?_
  simp only [List.forall_mem_cons, List.not_mem_nil, false_implies,
    implies_true, and_true]
  refine ⟨by simp [Json.nesting], nesting_ofFields_le ?_, ?_⟩
  · intro e he
    obtain ⟨q, -, rfl⟩ := List.mem_map.mp he
    refine nesting_ofFields_le ?_
    simp [Json.nesting]
  · rw [Json.nesting, Nat.add_le_add_iff_right, Json.deepest_le_iff]
    intro v hv
    obtain ⟨name, -, rfl⟩ := List.mem_map.mp hv
    simp [Json.nesting]

/-- The JSON of a tool's schema is read as the schema. -/
theorem read_schema {e : Endpoint} (h : ∀ p ∈ e.parameters, IsUnpaired p) :
    Json.read (Schema.ofEndpoint e).json
      = .ok (Schema.ofEndpoint e).toValue := by
  have hrequired : ∀ name ∈ (Schema.ofEndpoint e).required,
      Unpaired name.toList := by
    intro name hname
    obtain ⟨p, hp, rfl⟩ := List.mem_map.mp
      (mem_firstOccurrences.mp hname)
    exact (h p (List.mem_filter.mp hp).1).name
  have hfaithful := faithful_toValue (areReadBack_ofEndpoint h) hrequired
  obtain ⟨text, hwrite, hread⟩ :=
    Json.exists_write_settles Json.isReadBack_line hfaithful.textual
  have hdepth : Json.nesting (Schema.ofEndpoint e).toValue ≤ Json.depthLimit :=
    Nat.le_trans (nesting_toValue_le _) (by decide)
  unfold Schema.json
  rw [hwrite]
  dsimp only
  rw [hread.1 hdepth, hfaithful.rejoined_eq]

-- =========================================================== manifests

/-- The manifest of a package is made of texts, lists and mappings. -/
theorem textual_packageManifest (s : Server) :
    Textual (packageManifest s) := by
  have hsingle : ∀ name text : String,
      Textual (.ofFields [(name, .text text)]) :=
    fun name text => .fields (List.forall_mem_singleton.mpr (.text text))
  refine .fields ?_
  simp only [List.forall_mem_cons, List.not_mem_nil, false_implies,
    implies_true, and_true]
  exact ⟨.text _, .text _, .text _, .text _, .text _, hsingle _ _,
    hsingle _ _, hsingle _ _⟩

theorem nesting_packageManifest_le (s : Server) :
    Json.nesting (packageManifest s) ≤ 2 := by
  have htext : ∀ (n : Nat) (text : String), Json.nesting (.text text) ≤ n :=
    fun n text => Nat.zero_le n
  have hsingle : ∀ name text : String,
      Json.nesting (.ofFields [(name, .text text)]) ≤ 1 :=
    fun name text =>
      nesting_ofFields_le (List.forall_mem_singleton.mpr (htext 0 text))
  refine nesting_ofFields_le ?_
  simp only [List.forall_mem_cons, List.not_mem_nil, false_implies,
    implies_true, and_true]
  exact ⟨htext _ _, htext _ _, htext _ _, htext _ _, htext _ _, hsingle _ _,
    hsingle _ _, hsingle _ _⟩

/-- The manifest of a server without pairs in its texts is a faithful
value. -/
theorem faithful_packageManifest {s : Server} (hid : Unpaired s.id.toList)
    (hdescription : Unpaired s.description.toList) :
    Json.Faithful (packageManifest s) := by
  have hname : Unpaired ("mcp-" ++ s.id).toList := by
    rw [String.toList_append]
    exact hid.append (by decide)
  have hsingle : ∀ name text : String, Unpaired name.toList →
      Unpaired text.toList → Json.Faithful (.ofFields [(name, .text text)]) :=
    fun name text hname htext => .fields (List.nodup_singleton name)
      (List.forall_mem_singleton.mpr hname)
      (List.forall_mem_singleton.mpr (.text htext))
  refine faithful_named ["name", "version", "description", "main", "type",
    "scripts", "dependencies", "bin"] (by decide) (by decide) rfl ?_
  simp only [List.forall_mem_cons, List.not_mem_nil, false_implies,
    implies_true, and_true]
  exact ⟨.text hname, .text (by decide), .text hdescription,
    .text (by decide), .text (by decide),
    hsingle _ _ (by decide) (by decide), hsingle _ _ (by decide) (by decide),
    hsingle _ _ hname (by decide)⟩

/-- The manifest of a package is read as what the manifest comes back as. -/
theorem read_manifest (s : Server) :
    Json.read (manifest s .javascript).2.toList
      = .ok (Json.rejoined (packageManifest s)) := by
  obtain ⟨text, hwrite, hread⟩ := Json.exists_write_settles
    Json.isReadBack_manifest (textual_packageManifest s)
  have hdepth : Json.nesting (packageManifest s) ≤ Json.depthLimit :=
    Nat.le_trans (nesting_packageManifest_le s) (by decide)
  unfold manifest
  dsimp only
  rw [hwrite]
  dsimp only
  rw [String.toList_ofList, hread.1 hdepth]

/-- No fault is found in a manifest. -/
theorem fileFault_manifest (s : Server) :
    fileFault (manifest s .javascript).1 (manifest s .javascript).2
      = .ok none := by
  have hname : (manifest s .javascript).1 = "package.json" := rfl
  unfold fileFault
  rw [hname, if_neg (by decide), if_pos (by decide), read_manifest]

-- ============================================================ literals

/-- A text with both quotes, a backslash, a line separator and a character
beyond the units. -/
def tricky : String := "'\"\\\u2028\n😀"

/-- Lists inside one another, one more than so many. -/
def stacked : Nat → Value
  | 0 => .list []
  | n + 1 => .list [stacked n]

theorem faithful_stacked (n : Nat) : Json.Faithful (stacked n) := by
  induction n with
  | zero => exact .list (by simp)
  | succ n ih => exact .list (List.forall_mem_singleton.mpr ih)

theorem nesting_stacked (n : Nat) : Json.nesting (stacked n) = n + 1 := by
  induction n with
  | zero => rfl
  | succ n ih =>
      rw [stacked, Json.nesting, Json.deepest, Json.deepest, ih,
        Nat.max_zero]

end Toolsmith.Generate
