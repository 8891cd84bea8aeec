/-
What the parameters of an operation are. A token of the path makes a required
parameter of its own, once however often it occurs, and these parameters come
first. The declared ones follow: each has a name, since a declaration without
one is dropped, and whatever names they have, those in front stay as they are.
-/
import Toolsmith.Document.Parameters
import Toolsmith.Proofs.Document.Catalog

namespace Toolsmith

-- ========================================================= occurrences

/-- Leaving out repetitions loses no name and makes none. -/
theorem mem_firstOccurrences {s : String} {ss : List String} :
    s ∈ firstOccurrences ss ↔ s ∈ ss := by
  induction ss with
  | nil => exact Iff.rfl
  | cons a rest ih =>
      rw [firstOccurrences, List.mem_cons, List.mem_filter, ih, bne_iff_ne,
        List.mem_cons]
      constructor
      · rintro (rfl | ⟨hs, -⟩)
        · exact Or.inl rfl
        · exact Or.inr hs
      · rintro (rfl | hs)
        · exact Or.inl rfl
        · by_cases heq : s = a
          · exact Or.inl heq
          · exact Or.inr ⟨hs, heq⟩

/-- Without repetitions every name is there once. -/
theorem nodup_firstOccurrences (ss : List String) :
    (firstOccurrences ss).Nodup := by
  induction ss with
  | nil => exact List.nodup_nil
  | cons a rest ih =>
      refine List.nodup_cons.mpr ⟨fun ha => ?_, ih.filter _⟩
      exact bne_iff_ne.mp (List.mem_filter.mp ha).2 rfl

-- =============================================================== names

/-- Octets that are read as the empty text are none. -/
theorem Utf8.ne_nil_of_decode? {octets : List UInt8} {s : List Char}
    (h : decode? octets = some s) (hne : octets ≠ []) : s ≠ [] := by
  rintro rfl
  cases octets with
  | nil => exact hne rfl
  | cons o rest =>
      unfold decode? read at h
      rw [List.length_cons, units, List.mapM_cons] at h
      obtain ⟨_, -, h⟩ := Option.bind_eq_some_iff.mp h
      obtain ⟨_, -, h⟩ := Option.bind_eq_some_iff.mp h
      cases h

/-- A value that counts as there is no empty text. -/
theorem Shape.ne_empty_of_text {v : Value} {s : String}
    (h : Shape.text v = .ok s) (htruthy : v.isTruthy = true) : s ≠ "" := by
  unfold Shape.text at h
  split at h
  · cases h
    exact bne_iff_ne.mp htruthy
  next octets =>
    split at h
    next decoded hdecoded =>
      cases h
      intro hempty
      refine Utf8.ne_nil_of_decode? hdecoded ?_
        (String.ofList_eq_empty_iff.mp hempty)
      rintro rfl
      cases htruthy
    next => cases h
  · cases h

namespace Document

variable {d : Document} {path : String}

-- ========================================================== parameters

/-- The tokens of a path, each once, are its tokens. -/
theorem mem_distinctTokens {token : String} :
    token ∈ distinctTokens path
      ↔ token ∈ (pathTokens path.toList).map String.ofList :=
  mem_firstOccurrences

/-- A declared parameter has a name. -/
theorem name_ne_empty_of_declaredParam {tokens : List String}
    {declared : Value} {p : Param}
    (h : d.declaredParam tokens declared = .ok (some p)) : p.name ≠ "" := by
  unfold declaredParam at h
  dsimp only at h
  split at h
  · cases h
  next hparts =>
  have hname : (d.fieldOf declared "name").isTruthy = true := by
    simp only [Bool.not_eq_true, Bool.not_eq_false', Bool.and_eq_true]
      at hparts
    exact hparts.1.2
  split at h
  · cases h
  split at h
  · cases h
  obtain ⟨_, -, h⟩ := Steps.bind_eq_ok.mp h
  obtain ⟨read, hread, h⟩ := Steps.map_eq_ok.mp h
  obtain rfl := Option.some.inj h
  obtain ⟨g, description, hg, -, rfl⟩ :=
    Shape.Checked.seq_eq_ok (Failure.ofChecked_eq_ok.mp hread)
  obtain ⟨f, name, hf, hmade, rfl⟩ := Shape.Checked.seq_eq_ok hg
  cases hf
  exact Shape.ne_empty_of_text (Shape.Checked.under_eq_ok.mp hmade) hname

/-- The parameters of an operation are those of the tokens of its path and
then others, which have names. -/
theorem parameters_eq_ok {declared : List Value} {params : List Param}
    (h : d.parameters declared path = .ok params) :
    ∃ further, params = (distinctTokens path).map tokenParam ++ further
      ∧ ∀ p ∈ further, p.name ≠ "" := by
  obtain ⟨found, hfound, h⟩ := Steps.bind_eq_ok.mp h
  cases h
  refine ⟨found.filterMap id, rfl, fun p hp => ?_⟩
  obtain ⟨kept, hkept, rfl⟩ := List.mem_filterMap.mp hp
  obtain ⟨declaration, -, hdeclared⟩ := Steps.exists_of_mem_mapM hfound hkept
  exact name_ne_empty_of_declaredParam hdeclared

/-- So it is for every endpoint of a catalog. -/
theorem parameters_of_mem_catalog {endpoints : List Endpoint}
    {reports : List Log.Entry} (h : d.catalog = .ok (endpoints, reports))
    {e : Endpoint} (he : e ∈ endpoints) :
    ∃ further,
      e.parameters = (distinctTokens e.path).map tokenParam ++ further
        ∧ ∀ p ∈ further, p.name ≠ "" := by
  obtain ⟨_, -, hdrawn⟩ := drawnFrom_of_catalog h
  obtain ⟨_, -, hfrom⟩ := Steps.exists_of_mem_forall₂ hdrawn he
  obtain ⟨_, -, hparams⟩ := hfrom.parameters
  exact parameters_eq_ok hparams

end Document

end Toolsmith
