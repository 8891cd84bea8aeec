/-
What the checks of a package look at. The check of a Python package reads its
source and nothing else, and that of a JavaScript package its manifest. A
source can only be checked if it is plain, without lone surrogates and zeros;
it is at fault then if it is no program.
-/
import Toolsmith.Generate.Check
import Toolsmith.Proofs.Generate.Stored
import Toolsmith.Proofs.Text.Parts
import Toolsmith.Proofs.Value.Surrogates

namespace Toolsmith.Generate

open Text

-- ================================================================ plain

/-- The text can be taken as that of a program. -/
def Plain (s : List Char) : Prop := ∀ c ∈ s, isLone c = false ∧ c ≠ '\x00'

instance (s : List Char) : Decidable (Plain s) :=
  List.decidableBAll (fun c => isLone c = false ∧ c ≠ '\x00') s

theorem Plain.loneFree {s : List Char} (h : Plain s) : LoneFree s :=
  fun c hc => (h c hc).1

/-- A text is taken exactly if it is plain. -/
theorem requireText_eq_ok_iff {source : List Char} :
    requireText source = .ok () ↔ Plain source := by
  have hplain : Plain source
      ↔ LoneFree source ∧ source.contains '\x00' = false := by
    have hzero : source.contains '\x00' = false
        ↔ ∀ c ∈ source, c ≠ '\x00' := by
      rw [← Bool.not_eq_true, List.contains_iff_mem]
      exact ⟨fun h c hc heq => h (heq ▸ hc), fun h hmem => h _ hmem rfl⟩
    rw [hzero]
    exact ⟨fun h => ⟨h.loneFree, fun c hc => (h c hc).2⟩,
      fun h c hc => ⟨h.1 c hc, h.2 c hc⟩⟩
  unfold requireText Utf8.encode? Failure.ofLone
  rw [hplain, ← find?_eq_none_iff]
  cases hfind : Lone.find? source with
  | some run =>
      refine iff_of_false (fun h => ?_) fun h => ?_
      · cases h
      · cases h.1
  | none =>
      rw [eq_self_iff_true, true_and]
      cases source.contains '\x00' with
      | true => exact iff_of_false (fun h => by cases h) Bool.noConfusion
      | false => exact iff_of_true rfl rfl

/-- The text of a literal is plain if its characters are. -/
theorem plain_literal {s : List Char} (h : Plain s) :
    Plain (String.ofList s).toList := by
  rwa [String.toList_ofList]

-- =============================================================== checks

/-- A file whose name has no known ending has no fault. -/
theorem fileFault_other {name : String} (content : String)
    (hsource : ¬ ".py".toList.isSuffixOf name.toList = true)
    (hmanifest : ¬ ".json".toList.isSuffixOf name.toList = true) :
    fileFault name content = .ok none := by
  unfold fileFault
  rw [if_neg hsource, if_neg hmanifest]

/-- The check of a Python package is that of its source. -/
theorem faults_python (s : Server) :
    faults (package s .python)
      = (fileFault "server.py" (packagedSource s .python)).map fun fault =>
        (fault.map ("server.py", ·)).toList := by
  have hparts : (package s .python).partition
        (fun file => ".py".toList.isSuffixOf file.1.toList)
      = ([("server.py", packagedSource s .python)],
        [("requirements.txt", (manifest s .python).2),
          ("README.md", guide s .python)]) := by
    have hother :
        ".py".toList.isSuffixOf "requirements.txt".toList = false := by
      decide
    have hsource : ".py".toList.isSuffixOf "server.py".toList = true := by
      decide
    have hguide : ".py".toList.isSuffixOf "README.md".toList = false := by
      decide
    simp only [package, manifest, Target.filename, List.partition,
      List.partition.loop, hother, hsource, hguide, List.reverse_cons,
      List.reverse_nil, List.nil_append, List.cons_append]
  have hmanifest : fileFault "requirements.txt" (manifest s .python).2
      = .ok none := fileFault_other _ (by decide) (by decide)
  have hguide : fileFault "README.md" (guide s .python) = .ok none :=
    fileFault_other _ (by decide) (by decide)
  unfold faults
  dsimp only
  rw [hparts]
  dsimp only
  rw [List.singleton_append, List.mapM_cons, List.mapM_cons, List.mapM_cons,
    List.mapM_nil, hmanifest, hguide]
  cases fileFault "server.py" (packagedSource s .python) with
  | error failure => rfl
  | ok fault => cases fault <;> rfl

/-- The check of a package reports an error. -/
def Faulty (s : Server) (t : Target) : Prop :=
  ∃ found, faults (package s t) = .ok found ∧ found ≠ []

/-- The check of a package can be made, and its files have octets. -/
def Storable (s : Server) (t : Target) : Prop :=
  (∃ found, faults (package s t) = .ok found)
    ∧ ∀ file ∈ package s t, LoneFree file.2.toList

/-- A Python package is faulty if its source is plain and no program, whatever
else is in it. -/
theorem faulty_python_iff {s : Server} :
    Faulty s .python
      ↔ Plain (packagedSource s .python).toList
        ∧ strip (packagedSource s .python).toList ≠ []
        ∧ ∃ fault, Script.read (packagedSource s .python).toList
            = .error fault := by
  have hsource : ".py".toList.isSuffixOf "server.py".toList = true := by
    decide
  unfold Faulty
  rw [faults_python]
  generalize packagedSource s .python = source
  unfold fileFault
  rw [if_pos hsource]
  by_cases hblank : strip source.toList = []
  · rw [if_pos (List.isEmpty_iff.mpr hblank)]
    refine iff_of_false ?_ fun h => h.2.1 hblank
    rintro ⟨_, ⟨⟩, hne⟩
    exact hne rfl
  rw [if_neg fun h => hblank (List.isEmpty_iff.mp h)]
  by_cases hplain : Plain source.toList
  · rw [requireText_eq_ok_iff.mpr hplain]
    cases hread : Script.read source.toList with
    | ok tree =>
        refine iff_of_false ?_ ?_
        · rintro ⟨_, ⟨⟩, hne⟩
          exact hne rfl
        · rintro ⟨-, -, fault, ⟨⟩⟩
    | error fault =>
        exact iff_of_true ⟨_, rfl, List.cons_ne_nil _ _⟩
          ⟨hplain, hblank, fault, rfl⟩
  · refine iff_of_false ?_ fun h => hplain h.1
    rintro ⟨found, hfound, -⟩
    cases hrequire : requireText source.toList with
    | ok done => exact hplain (requireText_eq_ok_iff.mp hrequire)
    | error failure =>
        rw [hrequire] at hfound
        cases hfound

/-- The lines of a text have octets if each of them has. -/
theorem loneFree_render {lines : Lines} :
    LoneFree (render lines).toList ↔ ∀ line ∈ lines, LoneFree line := by
  unfold render
  rw [String.toList_ofList]
  unfold LoneFree
  rw [List.forall_mem_flatMap]
  refine forall₂_congr fun line _ => ?_
  rw [List.forall_mem_append]
  exact and_iff_left (List.forall_mem_singleton.mpr (by decide))

/-- The lines of a text are plain if each of them is. -/
theorem plain_render {lines : Lines} :
    Plain (render lines).toList ↔ ∀ line ∈ lines, Plain line := by
  unfold render
  rw [String.toList_ofList]
  unfold Plain
  rw [List.forall_mem_flatMap]
  refine forall₂_congr fun line _ => ?_
  rw [List.forall_mem_append]
  exact and_iff_left (List.forall_mem_singleton.mpr (by decide))

-- ============================================================== sources

/-- The guide to a package has octets if what it takes from the server has. -/
theorem loneFree_guide {s : Server} (t : Target)
    (hname : LoneFree s.name.toList)
    (hdescription : LoneFree s.description.toList)
    (hendpoints : ∀ line ∈ s.endpoints.flatMap guideEndpoint, LoneFree line)
    (hurl : LoneFree s.baseUrl.toList) : LoneFree (guide s t).toList := by
  have hinstall : LoneFree t.commands.1.toList := by cases t <;> decide
  have hstart : LoneFree t.commands.2.toList := by cases t <;> decide
  unfold guide
  simp only [loneFree_render, fixed, List.map_cons, List.map_nil,
    List.forall_mem_append, List.forall_mem_cons, loneFree_append]
  and_intros
  all_goals
    first
    | with_reducible assumption
    | with_reducible exact loneFree_nil
    | with_reducible exact List.forall_mem_nil _
    | exact (plain_literal (by decide +kernel)).loneFree

set_option maxRecDepth 2000 in
/-- The fixed lines of a Python source are plain. -/
theorem plain_caller : ∀ line ∈ fixed Python.caller, Plain line := by
  rw [fixed, List.forall_mem_map]
  unfold Python.caller
  simp only [List.forall_mem_cons]
  and_intros
  all_goals
    first
    | with_reducible exact List.forall_mem_nil _
    | exact plain_literal (by decide +kernel)

theorem plain_run : ∀ line ∈ fixed Python.run, Plain line := by
  rw [fixed, List.forall_mem_map]
  unfold Python.run
  simp only [List.forall_mem_cons]
  and_intros
  all_goals
    first
    | with_reducible exact List.forall_mem_nil _
    | exact plain_literal (by decide +kernel)

/-- A Python source is plain if all is that it does not share with others. -/
theorem plain_python {s : Server}
    (hhead : ∀ line ∈ Python.head s, Plain line)
    (htools : ∀ t ∈ tools s, ∀ line ∈
      Python.declaration t ++ Python.handler t ++ [Python.entry t],
      Plain line) :
    Plain (Python.source s).toList := by
  have hshared : ∀ line ∈ fixed ["", "", "HANDLERS = \x7b"], Plain line := by
    decide
  unfold Python.source Python.lines
  simp only [plain_render, List.forall_mem_append, List.forall_mem_flatMap,
    List.forall_mem_map]
  refine ⟨⟨⟨⟨⟨⟨hhead, fun t ht line hline => ?_⟩, plain_caller⟩,
    fun t ht line hline => ?_⟩, hshared⟩, fun t ht => ?_⟩, plain_run⟩
  all_goals
    refine htools t ht _ ?_
    simp only [List.mem_append, List.mem_singleton]
  · exact Or.inl (Or.inl hline)
  · exact Or.inl (Or.inr hline)
  · exact Or.inr trivial

-- =============================================================== titles

/-- A title that goes on in a row of its own, with a bracket that closes
nothing. -/
def unmatchedTitle : String := "T\r)"

/-- The first two rows of the source for this title, with what comes behind
them. -/
def unmatchedRows (rest : List Char) : List Char :=
  "#!/usr/bin/env python3".toList ++ '\n' :: ("# MCP Server for ".toList
    ++ "T\r)".toList ++ '\n' :: rest)

/-- A source in whose second row the title stands is no program. -/
theorem read_unmatched (rest : List Char) :
    Script.read (unmatchedRows rest) = .error ⟨"unmatched ')'", 3⟩ := by
  have htokens : Script.tokens (unmatchedRows rest)
      = ([], some ⟨"unmatched ')'", 3, true, none⟩) := by
    rfl
  rw [Script.read, htokens]
  dsimp only
  -- the bound on the depth is large enough however long the text is
  generalize (unmatchedRows rest).length = n
  rfl

/-- The title stands in the second row of the source. -/
theorem exists_source_unmatched {s : Server} (h : s.name = unmatchedTitle) :
    ∃ rest, (Python.source s).toList = unmatchedRows rest := by
  have htitle : Text.replace ['\n'] [' '] s.name.toList = "T\r)".toList := by
    rw [h]
    decide
  unfold Python.source render Python.lines Python.head unmatchedRows
  rw [String.toList_ofList, htitle]
  simp only [List.cons_append, List.flatMap_cons, List.append_assoc,
    List.nil_append]
  exact ⟨_, rfl⟩

/-- The package of a server that was just made has the source of that
server. -/
theorem packagedSource_of_server {d : Document} {s : Server} {t : Target}
    {reports : List Log.Entry} (h : d.server = .ok (s, reports)) :
    packagedSource s t = t.source s :=
  packagedSource_of_codeFor ((Document.server_eq_ok h).2 t)
    (source_ne_empty t s)

/-- The package of a server with this title is faulty. -/
theorem faulty_unmatched {d : Document} {s : Server}
    {reports : List Log.Entry} (h : d.server = .ok (s, reports))
    (hname : s.name = unmatchedTitle)
    (hplain : Plain (Python.source s).toList) : Faulty s .python := by
  obtain ⟨rest, hrest⟩ := exists_source_unmatched hname
  have hvisible : strip (Python.source s).toList ≠ [] := by
    rw [Ne, strip_eq_nil_iff, hrest]
    intro hmargin
    exact absurd (hmargin '#' List.mem_cons_self) (by decide)
  rw [faulty_python_iff, packagedSource_of_server h]
  refine ⟨hplain, hvisible, ⟨"unmatched ')'", 3⟩, ?_⟩
  change Script.read (Python.source s).toList = _
  rw [hrest]
  exact read_unmatched rest

end Toolsmith.Generate
