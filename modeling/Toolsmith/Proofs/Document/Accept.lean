/-
What becomes of a document. It is turned down for want of a title, of paths,
or of an operation, in this order; and if it has them all it becomes a server
exactly if every part of it is fit. There is no check of that: a part that is
not fit ends the reading in a mishap.
-/
import Toolsmith.Proofs.Document.Fit
import Toolsmith.Proofs.Document.Load
import Toolsmith.Proofs.Document.Operations
import Toolsmith.Proofs.Generate.Callable

namespace Toolsmith.Document

-- =============================================================== checks

/-- The facts about the API are a mapping with a title. -/
def HasTitle (d : Document) : Prop :=
  (d.field "info").isMap = true
    ∧ (d.fieldOf (d.field "info") "title").isTruthy = true

/-- The paths are a mapping that is not empty. -/
def HasPaths (d : Document) : Prop :=
  (d.field "paths").isMap = true ∧ (d.field "paths").isTruthy = true

/-- An operation is declared somewhere under the paths. -/
def HasOperation (d : Document) : Prop :=
  ∃ x ∈ d.itemEntries, x.isOperation = true

/-- Every operation is fit for an endpoint, and the facts about the API for a
server. -/
structure Fits (d : Document) : Prop where
  operations : ∀ x ∈ d.itemEntries, x.isOperation = true →
    d.FitsEndpoint x.operation
  facts : d.FitsServer

variable {d : Document} {text : String} {filename : Option String}

theorem titled_of_hasTitle (h : d.HasTitle) :
    d.titled = .ok (d.field "info") := by
  unfold titled
  dsimp only
  rw [h.1, h.2]
  rfl

theorem requirePaths_of_hasPaths (h : d.HasPaths) :
    d.requirePaths = .ok () := by
  unfold requirePaths
  dsimp only
  rw [h.1, h.2]
  rfl

theorem server_of_not_hasTitle (h : ¬ d.HasTitle) :
    d.server = .error (.specification .noTitle) := by
  have htitled : d.titled = .error (.specification .noTitle) := by
    unfold titled
    dsimp only
    rw [if_neg fun hboth => h (Bool.and_eq_true_iff.mp hboth)]
  unfold server
  rw [htitled]
  rfl

theorem server_of_not_hasPaths (htitle : d.HasTitle) (h : ¬ d.HasPaths) :
    d.server = .error (.specification .noPaths) := by
  have hrequired : d.requirePaths = .error (.specification .noPaths) := by
    unfold requirePaths
    dsimp only
    rw [if_neg fun hboth => h (Bool.and_eq_true_iff.mp hboth)]
  unfold server
  rw [titled_of_hasTitle htitle, hrequired]
  rfl

-- =========================================================== operations

/-- The paths of a document that has been read can be walked. -/
theorem operations_of_load (h : load text filename = .ok d)
    (hpaths : d.HasPaths) :
    d.operations = .ok ((d.itemEntries.filter ItemEntry.isOperation).map
      ItemEntry.operation) := by
  obtain ⟨entries, hentries⟩ := exists_look_of_load h hpaths.1
  have hok : ∃ ops, d.operations = .ok ops := by
    unfold operations
    dsimp only
    rw [hpaths.2, hentries]
    exact ⟨_, rfl⟩
  obtain ⟨ops, hops⟩ := hok
  rw [hops, operations_eq_ok hops]

/-- The endpoints of a catalog are as many as the operations. -/
theorem isEmpty_of_catalog {ops : List Operation}
    {endpoints : List Endpoint} {reports : List Log.Entry}
    (hops : d.operations = .ok ops)
    (h : d.catalog = .ok (endpoints, reports)) :
    endpoints.isEmpty = ops.isEmpty := by
  obtain ⟨_, hfound, hdrawn⟩ := drawnFrom_of_catalog h
  cases hops.symm.trans hfound
  cases hdrawn <;> rfl

theorem server_of_not_hasOperation (hload : load text filename = .ok d)
    (htitle : d.HasTitle) (hpaths : d.HasPaths) (h : ¬ d.HasOperation) :
    d.server = .error .empty := by
  have hnone : d.itemEntries.filter ItemEntry.isOperation = [] :=
    List.filter_eq_nil_iff.mpr fun x hx hop => h ⟨x, hx, hop⟩
  have hops := operations_of_load hload hpaths
  rw [hnone] at hops
  have hcatalog : d.catalog = .ok ([], []) := by
    unfold catalog
    rw [hops]
    rfl
  unfold server
  rw [titled_of_hasTitle htitle, requirePaths_of_hasPaths hpaths, hcatalog]
  rfl

/-- A document with a title, paths and an operation needs nothing but that
everything in it is fit. -/
theorem needs_server (hload : load text filename = .ok d)
    (htitle : d.HasTitle) (hpaths : d.HasPaths) (h : d.HasOperation) :
    Needs d.server d.Fits := by
  have hops := operations_of_load hload hpaths
  unfold server
  rw [titled_of_hasTitle htitle]
  change Needs (d.requirePaths >>= _) _
  rw [requirePaths_of_hasPaths hpaths]
  change Needs (d.catalog >>= _) _
  refine (Needs.bind (q := d.FitsServer) (needs_catalog hops)
    fun made hmade => ?_).congr ⟨?_, ?_⟩
  · obtain ⟨endpoints, found⟩ := made
    have hnonempty : ¬ endpoints.isEmpty = true := by
      rw [isEmpty_of_catalog hops hmade, List.isEmpty_iff,
        List.map_eq_nil_iff, List.filter_eq_nil_iff]
      obtain ⟨x, hx, hop⟩ := h
      exact fun hnone => hnone x hx hop
    dsimp only
    rw [if_neg hnonempty]
    refine ((needs_displayString _).bind fun title _ =>
      ((needs_displayString _).congr displays_orElse_text).bind fun version _ =>
        needs_baseUrl.bind fun url _ =>
          ((needs_text _ _ _).congr
            (Value.isText_orElse (.text _))).bind_ok _).congr ⟨?_, ?_⟩
    · rintro ⟨htitle, hversion, hurl, hdescription⟩
      exact ⟨htitle, hversion, hurl, hdescription⟩
    · rintro ⟨htitle, hversion, hurl, hdescription⟩
      exact ⟨htitle, hversion, hurl, hdescription⟩
  · rintro ⟨hops, hfacts⟩
    exact ⟨fun x hx hop => hops _ (List.mem_map_of_mem
      (List.mem_filter.mpr ⟨hx, hop⟩)), hfacts⟩
  · rintro ⟨hops, hfacts⟩
    refine ⟨fun op hop => ?_, hfacts⟩
    obtain ⟨x, hx, rfl⟩ := List.mem_map.mp hop
    exact hops x (List.mem_filter.mp hx).1 (List.mem_filter.mp hx).2

-- ============================================================= outcome

/-- A server is made for code that is still to be used. -/
theorem status_of_server {s : Server} {reports : List Log.Entry}
    (h : d.server = .ok (s, reports)) : s.status = .generating := by
  obtain ⟨info, -, h⟩ := Steps.bind_eq_ok.mp h
  obtain ⟨_, -, h⟩ := Steps.bind_eq_ok.mp h
  obtain ⟨⟨endpoints, found⟩, -, h⟩ := Steps.bind_eq_ok.mp h
  dsimp only at h
  split at h
  · cases h
  obtain ⟨title, -, h⟩ := Steps.bind_eq_ok.mp h
  obtain ⟨version, -, h⟩ := Steps.bind_eq_ok.mp h
  obtain ⟨baseUrl, -, h⟩ := Steps.bind_eq_ok.mp h
  obtain ⟨description, -, h⟩ := Steps.bind_eq_ok.mp h
  cases h
  rfl

/-- The outcomes that turn a document down. -/
inductive Refusal : Failure → Prop where
  | noTitle : Refusal (.specification .noTitle)
  | noPaths : Refusal (.specification .noPaths)
  | empty : Refusal .empty

/-- No refusal is a mishap. -/
theorem Refusal.not_isMishap {failure : Failure} (h : Refusal failure) :
    ¬ failure.IsMishap := by
  cases h <;> exact id

/-- The four ways that a document can go. -/
theorem server_cases (h : load text filename = .ok d) :
    (¬ d.HasTitle ∧ d.server = .error (.specification .noTitle))
      ∨ (d.HasTitle ∧ ¬ d.HasPaths
        ∧ d.server = .error (.specification .noPaths))
      ∨ (d.HasTitle ∧ d.HasPaths ∧ ¬ d.HasOperation
        ∧ d.server = .error .empty)
      ∨ (d.HasTitle ∧ d.HasPaths ∧ d.HasOperation
        ∧ Needs d.server d.Fits) := by
  by_cases htitle : d.HasTitle
  · by_cases hpaths : d.HasPaths
    · by_cases hop : d.HasOperation
      · exact .inr (.inr (.inr ⟨htitle, hpaths, hop,
          needs_server h htitle hpaths hop⟩))
      · exact .inr (.inr (.inl ⟨htitle, hpaths, hop,
          server_of_not_hasOperation h htitle hpaths hop⟩))
    · exact .inr (.inl ⟨htitle, hpaths, server_of_not_hasPaths htitle hpaths⟩)
  · exact .inl ⟨htitle, server_of_not_hasTitle htitle⟩

/-- A description with one operation, which declares one parameter under the
given name. -/
def naming (name : String) : String :=
  "\x7b\"info\": \x7b\"title\": \"T\"\x7d, \"paths\": \x7b\"/a\": "
    ++ "\x7b\"get\": \x7b\"parameters\": [\x7b\"name\": " ++ name
    ++ "\x7d]\x7d\x7d\x7d\x7d"

end Toolsmith.Document
