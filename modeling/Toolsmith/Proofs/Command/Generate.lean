/-
How the command that writes packages ends. It reports code that did not pass
its checks, and ends with an error then, only where it writes separate files:
a package that is written as one text is never checked.

The command is followed on a host that has the description and takes every
file; what it leaves behind there does not matter. Its steps are planned
first, so the plan says how it ends: a plan is clear if every check of it can
be made and everything in it has octets, and the plan for some targets is
clear if that for each of them is.
-/
import Toolsmith.Command.Generate
import Toolsmith.Proofs.Generate.Checked

namespace Toolsmith.Command

open Generate
open Text

variable {σ α β : Type}

-- ============================================================== results

/-- Wherever the work starts from, it comes to this result. -/
def Ends (x : Work (StateM σ) α) (result : Except Ending α) : Prop :=
  ∀ w, (x.run.run w).1 = result

theorem ends_pure (a : α) : Ends (pure a : Work (StateM σ) α) (.ok a) :=
  fun _ => rfl

theorem ends_throw (e : Ending) :
    Ends (throw e : Work (StateM σ) α) (.error e) :=
  fun _ => rfl

theorem ends_lift (x : StateM σ α) {a : α} (h : ∀ w, (x.run w).1 = a) :
    Ends (ExceptT.lift x) (.ok a) :=
  fun w => congrArg Except.ok (h w)

variable {x : Work (StateM σ) α} {f : α → Work (StateM σ) β}

/-- One piece of work that is done, and then another one. -/
theorem Ends.bind {a : α} {result : Except Ending β} (hx : Ends x (.ok a))
    (hf : Ends (f a) result) : Ends (x >>= f) result := by
  intro w
  have hfirst := hx w
  rw [ExceptT.run_bind, StateT.run_bind]
  cases hrun : x.run.run w with
  | mk made left =>
      rw [hrun] at hfirst
      cases hfirst
      exact hf left

/-- Work that ends early leaves the rest undone. -/
theorem Ends.stop {e : Ending} (hx : Ends x (.error e)) :
    Ends (x >>= f) (.error e) := by
  intro w
  have hfirst := hx w
  rw [ExceptT.run_bind, StateT.run_bind]
  cases hrun : x.run.run w with
  | mk made left =>
      rw [hrun] at hfirst
      cases hfirst
      rfl

-- ================================================================= hosts

/-- The host has a description under a path, and takes every directory and
file. -/
structure Obliging (host : Host (StateM σ)) (path : String) (d : Document) :
    Prop where
  reads : ∃ content, (∀ w, ((host.read path).run w).1 = .ok content)
    ∧ Document.load (String.ofList (unifyBreaks content.toList)) (some path)
      = .ok d
  makes : ∀ directory w, ((host.makeDirectory directory).run w).1 = .ok ()
  writes : ∀ file text w, ((host.write file text).run w).1 = .ok ()

/-- A file or directory that is taken is no reason to end. -/
theorem ends_orFileEnd {result : StateM σ (Except FileFault α)} {a : α}
    (h : ∀ w, (result.run w).1 = .ok a) : Ends (orFileEnd result) (.ok a) := by
  unfold orFileEnd
  refine (ends_lift result h).bind ?_
  exact ends_pure a

/-- A line with octets is printed. -/
theorem ends_echo {host : Host (StateM σ)} {line : String}
    (h : LoneFree line.toList) : Ends (host.echo line) (.ok ()) := by
  unfold Host.echo
  rw [find?_eq_none_iff.mpr h]
  exact ends_lift _ fun _ => rfl

/-- A line without octets is a failure. -/
theorem ends_echo_lone (host : Host (StateM σ)) {line : String}
    (h : ¬ LoneFree line.toList) :
    ∃ failure, Ends (host.echo line) (.error (.failed failure)) := by
  unfold Host.echo
  cases hfind : Lone.find? line.toList with
  | none => exact absurd (find?_eq_none_iff.mp hfind) h
  | some run => exact ⟨.misuse (.lone run), ends_throw _⟩

-- ================================================================= steps

/-- What the step writes has octets, and so has the path that is printed. -/
def Step.Clear : Step → Prop
  | .file path content => LoneFree path.toList ∧ LoneFree content.toList
  | .directory _ | .warning _ => True

variable {host : Host (StateM σ)} {path : String} {d : Document}

/-- The line about a file has octets if its path has. -/
theorem loneFree_created {path : String} :
    LoneFree s!"  Created {path}".toList ↔ LoneFree path.toList := by
  have hword : LoneFree "  Created ".toList := by decide
  have hparts : s!"  Created {path}".toList
      = "  Created ".toList ++ path.toList :=
    String.toList_append
  rw [hparts, loneFree_append]
  exact and_iff_right hword

/-- A clear step is taken. -/
theorem ends_takeStep (hhost : Obliging host path d) {step : Step}
    (h : step.Clear) : Ends (takeStep host step) (.ok ()) := by
  cases step with
  | directory d => exact ends_orFileEnd (hhost.makes d)
  | warning text => exact ends_lift _ fun _ => rfl
  | file file text =>
      unfold takeStep
      dsimp only
      rw [find?_eq_none_iff.mpr h.2]
      exact (ends_orFileEnd (hhost.writes file text)).bind
        (ends_echo (loneFree_created.mpr h.1))

/-- A step that is not clear fails. -/
theorem ends_takeStep_lone (hhost : Obliging host path d) {step : Step}
    (h : ¬ step.Clear) :
    ∃ failure, Ends (takeStep host step) (.error (.failed failure)) := by
  cases step with
  | directory d => exact absurd trivial h
  | warning text => exact absurd trivial h
  | file file text =>
      unfold takeStep
      dsimp only
      cases hfind : Lone.find? text.toList with
      | some run =>
          exact ⟨.misuse (.lone run),
            (ends_orFileEnd (hhost.writes file "")).bind (ends_throw _)⟩
      | none =>
          have hpath : ¬ LoneFree file.toList := fun hpath =>
            h ⟨hpath, find?_eq_none_iff.mp hfind⟩
          obtain ⟨failure, hecho⟩ :=
            ends_echo_lone host (mt loneFree_created.mp hpath)
          exact ⟨failure,
            (ends_orFileEnd (hhost.writes file text)).bind hecho⟩

/-- Clear steps are all taken. -/
theorem ends_steps (hhost : Obliging host path d) {steps : List Step}
    (h : ∀ step ∈ steps, step.Clear) :
    Ends (steps.forM (takeStep host)) (.ok ()) := by
  induction steps with
  | nil => exact ends_pure ()
  | cons step steps ih =>
      obtain ⟨hstep, hsteps⟩ := List.forall_mem_cons.mp h
      exact (ends_takeStep hhost hstep).bind (ih hsteps)

/-- Steps that are not all clear fail. -/
theorem ends_steps_lone (hhost : Obliging host path d)
    {steps : List Step} (h : ¬ ∀ step ∈ steps, step.Clear) :
    ∃ failure,
      Ends (steps.forM (takeStep host)) (.error (.failed failure)) := by
  induction steps with
  | nil => exact absurd (fun _ hstep => absurd hstep List.not_mem_nil) h
  | cons step steps ih =>
      by_cases hstep : step.Clear
      · obtain ⟨failure, hrest⟩ := ih fun hsteps =>
          h (List.forall_mem_cons.mpr ⟨hstep, hsteps⟩)
        exact ⟨failure, (ends_takeStep hhost hstep).bind hrest⟩
      · obtain ⟨failure, hfirst⟩ := ends_takeStep_lone hhost hstep
        exact ⟨failure, hfirst.stop⟩

-- ================================================================= plans

namespace Generation

/-- Every check can be made, and every step can be taken. -/
def Clear (g : Generation) : Prop :=
  g.failure = none ∧ ∀ step ∈ g.steps, step.Clear

/-- One plan and then another one. -/
theorem clear_append {g h : Generation} :
    (g.append h).Clear ↔ g.Clear ∧ h.Clear := by
  unfold append
  cases hfailure : g.failure with
  | some failure =>
      have hg : ¬ g.Clear := fun h => by cases hfailure.symm.trans h.1
      exact iff_of_false hg fun h => hg h.1
  | none =>
      unfold Clear
      simp only [hfailure, true_and, List.forall_mem_append]
      exact and_left_comm

/-- Both plans pass, if the first one is not at an end before. -/
theorem passed_append {g h : Generation} (hg : g.Clear) :
    (g.append h).passed = (g.passed && h.passed) := by
  unfold append
  rw [hg.1]

/-- Some plans, one after the other. -/
theorem clear_foldr {gs : List Generation} :
    (gs.foldr append empty).Clear ↔ ∀ g ∈ gs, g.Clear := by
  induction gs with
  | nil =>
      exact iff_of_true ⟨rfl, List.forall_mem_nil _⟩ (List.forall_mem_nil _)
  | cons g gs ih =>
      rw [List.foldr_cons, clear_append, ih, List.forall_mem_cons]

/-- Some plans pass if each of them does. -/
theorem passed_foldr {gs : List Generation} (h : ∀ g ∈ gs, g.Clear) :
    (gs.foldr append empty).passed = gs.all (·.passed) := by
  induction gs with
  | nil => rfl
  | cons g gs ih =>
      obtain ⟨hg, hgs⟩ := List.forall_mem_cons.mp h
      rw [List.foldr_cons, passed_append hg, ih hgs, List.all_cons]

end Generation

/-- The names of the files in a package are those of its language. -/
theorem loneFree_filename {s : Server} {t : Target} {file : String × String}
    (h : file ∈ package s t) : LoneFree file.1.toList := by
  simp only [package, List.mem_cons, List.not_mem_nil, or_false] at h
  rcases h with rfl | rfl | rfl
  · cases t with
    | javascript => exact (show LoneFree "package.json".toList by decide)
    | python => exact (show LoneFree "requirements.txt".toList by decide)
  · cases t with
    | javascript => exact (show LoneFree "index.js".toList by decide)
    | python => exact (show LoneFree "server.py".toList by decide)
  · exact (show LoneFree "README.md".toList by decide)

/-- A file in a directory whose path has octets. -/
theorem loneFree_within {directory name : String}
    (hdirectory : LoneFree directory.toList) :
    LoneFree (Path.within directory name).toList ↔ LoneFree name.toList := by
  have hslash : LoneFree "/".toList := by decide
  unfold Path.within
  split
  · rfl
  split
  · rw [String.toList_append, loneFree_append]
    exact and_iff_right hdirectory
  · rw [String.toList_append, String.toList_append, loneFree_append,
      loneFree_append]
    exact and_iff_right ⟨hdirectory, hslash⟩

/-- Separate files whose check can be made. -/
theorem separate_of_ok {s : Server} {t : Target}
    {found : List (String × String)} (directory : String)
    (h : faults (package s t) = .ok found) :
    Generation.separate s directory t =
      ⟨found.map (fun entry => Generation.warningOf t entry.1 entry.2)
        ++ .directory directory
        :: (package s t).map (fun file =>
          .file (Path.within directory file.1) file.2),
       found.isEmpty, none⟩ := by
  unfold Generation.separate
  dsimp only
  rw [h]

/-- Separate files whose check cannot be made. -/
theorem separate_of_error {s : Server} {t : Target} {failure : Failure}
    (directory : String) (h : faults (package s t) = .error failure) :
    Generation.separate s directory t = ⟨[], true, some failure⟩ := by
  unfold Generation.separate
  dsimp only
  rw [h]

/-- The plan of separate files is clear if they can be stored. -/
theorem clear_separate {s : Server} {directory : String} {t : Target}
    (hdirectory : LoneFree directory.toList) :
    (Generation.separate s directory t).Clear ↔ Storable s t := by
  cases hfaults : faults (package s t) with
  | error failure =>
      rw [separate_of_error directory hfaults]
      refine iff_of_false (fun h => ?_) fun h => ?_
      · cases h.1
      · obtain ⟨⟨found, hfound⟩, -⟩ := h
        cases hfound.symm.trans hfaults
  | ok found =>
      have hwarnings : ∀ step ∈ found.map
          (fun entry => Generation.warningOf t entry.1 entry.2),
          step.Clear := by
        intro step hstep
        obtain ⟨entry, -, rfl⟩ := List.mem_map.mp hstep
        trivial
      have hfiles : (∀ step ∈ (package s t).map (fun file =>
            Step.file (Path.within directory file.1) file.2), step.Clear)
          ↔ ∀ file ∈ package s t, LoneFree file.2.toList := by
        rw [List.forall_mem_map]
        refine forall₂_congr fun file hfile => and_iff_right ?_
        exact (loneFree_within hdirectory).mpr (loneFree_filename hfile)
      rw [separate_of_ok directory hfaults]
      unfold Generation.Clear
      simp only [List.forall_mem_append, List.forall_mem_cons, true_and]
      constructor
      · rintro ⟨-, -, h⟩
        exact ⟨⟨found, hfaults⟩, hfiles.mp h⟩
      · rintro ⟨-, h⟩
        exact ⟨hwarnings, trivial, hfiles.mpr h⟩

/-- Separate files pass unless their check reports an error. -/
theorem passed_separate {s : Server} {t : Target} (directory : String)
    (h : Storable s t) :
    (Generation.separate s directory t).passed = true ↔ ¬ Faulty s t := by
  obtain ⟨⟨found, hfound⟩, -⟩ := h
  rw [separate_of_ok directory hfound, Faulty, hfound]
  dsimp only
  rw [List.isEmpty_iff]
  constructor
  · rintro rfl ⟨_, ⟨⟩, hne⟩
    exact hne rfl
  · intro hnone
    by_contra hne
    exact hnone ⟨found, rfl, hne⟩

/-- The plan of one text is clear if that text has octets. -/
theorem clear_bundled {s : Server} {output : String} {t : Target}
    (houtput : LoneFree output.toList) (hid : LoneFree s.id.toList) :
    (Generation.bundled s output t).Clear
      ↔ LoneFree (archive s t).toList := by
  have hname : LoneFree s!"{s.id}-{t.name}.txt".toList := by
    have hparts : s!"{s.id}-{t.name}.txt".toList
        = s.id.toList ++ "-".toList ++ t.name.toList ++ ".txt".toList := by
      simp only [String.toList_append, toString]
    have hmark : LoneFree "-".toList := by decide
    have hword : LoneFree t.name.toList := by cases t <;> decide
    have hending : LoneFree ".txt".toList := by decide
    rw [hparts]
    simp only [loneFree_append]
    exact ⟨⟨⟨hid, hmark⟩, hword⟩, hending⟩
  unfold Generation.bundled Generation.Clear
  rw [List.forall_mem_singleton]
  exact (and_iff_right rfl).trans
    (and_iff_right ((loneFree_within houtput).mpr hname))

-- =============================================================== command

/-- The digits of a number have octets. -/
theorem loneFree_number (n : Nat) : LoneFree (toString n).toList := by
  intro c hc
  rw [Nat.toString_eq_repr, Nat.toList_repr] at hc
  have hdigit := Nat.isDigit_of_mem_toDigits (by decide) (by decide) hc
  simp only [Char.isDigit, Bool.and_eq_true, decide_eq_true_eq] at hdigit
  have hle : c.toNat ≤ 57 := hdigit.2
  exact isLone_of_lt (by omega)

/-- The server of a description that the host has. -/
theorem ends_loadServer {s : Server} {reports : List Log.Entry}
    (hhost : Obliging host path d) (hserver : d.server = .ok (s, reports)) :
    Ends (loadServer host path) (.ok s.markReady) := by
  obtain ⟨content, hread, hload⟩ := hhost.reads
  unfold loadServer
  refine (ends_orFileEnd hread).bind ?_
  dsimp only
  rw [hload]
  refine Ends.bind (ends_pure d) ?_
  rw [hserver]
  refine Ends.bind (ends_pure (s, reports)) ?_
  exact (ends_lift (a := ()) (host.report reports) fun _ => rfl).bind
    (ends_pure _)

/-- The directory that a reading asks for. -/
def outputOf (r : Reading) : String :=
  Path.normal ((r.last? "--output").getD "")

/-- The plan for a reading. -/
def planOf (s : Server) (r : Reading) : Generation :=
  Generation.ofTargets s (outputOf r) (r.has "--bundle") (chosenTargets r)

/-- Carries out a plan. -/
def carryOut (host : Host (StateM σ)) (output : String)
    (plan : Generation) : Work (StateM σ) Unit := do
  plan.steps.forM (takeStep host)
  if plan.failure.isNone then
    host.echo s!"Generated {plan.written} files in {output}"
  if let some ending := plan.ending? then throw ending

/-- The command makes a plan and carries it out. -/
theorem generate_eq (host : Host (StateM σ)) (r : Reading) :
    generate host r = (do
      host.echo s!"Parsing {Path.normal (place r 0)}..."
      let server ← loadServer host (place r 0)
      host.echo s!"Found {server.endpoints.length} endpoints."
      orFileEnd (host.makeDirectory (outputOf r))
      carryOut host (outputOf r) (planOf server r)) :=
  rfl

/-- A plan that says how to end. -/
theorem ends_ending (plan : Generation) :
    Ends (do if let some ending := plan.ending? then throw ending :
        Work (StateM σ) Unit)
      (match plan.ending? with
        | some ending => .error ending
        | none => .ok ()) := by
  cases plan.ending? with
  | some ending => exact ends_throw ending
  | none => exact ends_pure ()

/-- How a plan ends whose steps are taken. -/
theorem ends_carryOut {plan : Generation} {output : String}
    (houtput : LoneFree output.toList)
    (hsteps : Ends (plan.steps.forM (takeStep host)) (.ok ())) :
    Ends (carryOut host output plan)
      (match plan.ending? with
        | some ending => .error ending
        | none => .ok ()) := by
  have hline : LoneFree
      s!"Generated {plan.written} files in {output}".toList := by
    have hfirst : LoneFree "Generated ".toList := by decide
    have hsecond : LoneFree " files in ".toList := by decide
    have hcount := loneFree_number plan.written
    simp only [toString, String.toList_append, loneFree_append]
    exact ⟨⟨⟨hfirst, hcount⟩, hsecond⟩, houtput⟩
  refine hsteps.bind ?_
  dsimp only
  split
  · exact (ends_echo hline).bind (ends_ending plan)
  · exact ends_ending plan

/-- The report that generated code did not pass its checks. -/
def rejection : Ending := .refused "Generated code failed validation"

/-- A clear plan is carried out, and says how it ends. -/
theorem ends_carryOut_clear {plan : Generation} {output : String}
    (hhost : Obliging host path d) (houtput : LoneFree output.toList)
    (h : plan.Clear) :
    Ends (carryOut host output plan)
      (if plan.passed then .ok () else .error rejection) := by
  have hrun := ends_carryOut houtput (ends_steps hhost h.2)
  rw [Generation.ending?, h.1] at hrun
  cases hpassed : plan.passed with
  | true =>
      rw [hpassed] at hrun
      exact hrun
  | false =>
      rw [hpassed] at hrun
      exact hrun

/-- Any other plan fails, at a step or at a check. -/
theorem ends_carryOut_lone {plan : Generation} {output : String}
    (hhost : Obliging host path d) (houtput : LoneFree output.toList)
    (h : ¬ plan.Clear) :
    ∃ failure,
      Ends (carryOut host output plan) (.error (.failed failure)) := by
  by_cases hsteps : ∀ step ∈ plan.steps, step.Clear
  · have hrun := ends_carryOut houtput (ends_steps hhost hsteps)
    cases hfailure : plan.failure with
    | none => exact absurd ⟨hfailure, hsteps⟩ h
    | some failure =>
        rw [Generation.ending?, hfailure] at hrun
        exact ⟨failure, hrun⟩
  · obtain ⟨failure, hlone⟩ := ends_steps_lone hhost hsteps
    exact ⟨failure, hlone.stop⟩

-- ================================================================ runs

variable {r : Reading} {s : Server} {reports : List Log.Entry}

/-- Up to its plan the command does the same whatever the plan is. -/
theorem ends_generate {result : Except Ending Unit}
    (hhost : Obliging host (place r 0) d)
    (hserver : d.server = .ok (s, reports))
    (hplace : LoneFree (Path.normal (place r 0)).toList)
    (h : Ends (carryOut host (outputOf r) (planOf s.markReady r)) result) :
    Ends (generate host r) result := by
  have hparsing : LoneFree
      s!"Parsing {Path.normal (place r 0)}...".toList := by
    have hfirst : LoneFree "Parsing ".toList := by decide
    have hsecond : LoneFree "...".toList := by decide
    simp only [toString, String.toList_append, loneFree_append]
    exact ⟨⟨hfirst, hplace⟩, hsecond⟩
  have hfound : LoneFree
      s!"Found {s.markReady.endpoints.length} endpoints.".toList := by
    have hfirst : LoneFree "Found ".toList := by decide
    have hsecond : LoneFree " endpoints.".toList := by decide
    have hcount := loneFree_number s.markReady.endpoints.length
    simp only [toString, String.toList_append, loneFree_append]
    exact ⟨⟨hfirst, hcount⟩, hsecond⟩
  rw [generate_eq]
  refine (ends_echo hparsing).bind ?_
  refine (ends_loadServer hhost hserver).bind ?_
  refine (ends_echo hfound).bind ?_
  exact (ends_orFileEnd (hhost.makes _)).bind h

/-- Every target has a directory whose path has octets. -/
theorem loneFree_directoryOf {output : String} {targets : List Target}
    (houtput : LoneFree output.toList) (t : Target) :
    LoneFree (Generation.directoryOf output targets t).toList := by
  have hname : LoneFree t.name.toList := by cases t <;> decide
  unfold Generation.directoryOf
  split
  · exact (loneFree_within houtput).mpr hname
  · exact houtput

/-- What is planned without `--bundle`: it can be carried out if every package
can be stored, and passes then if none of them is faulty. -/
theorem plan_separate (houtput : LoneFree (outputOf r).toList)
    (hbundle : r.has "--bundle" = false) :
    ((planOf s.markReady r).Clear ↔ ∀ t ∈ chosenTargets r, Storable s t)
      ∧ ((planOf s.markReady r).Clear →
        ((planOf s.markReady r).passed = true
          ↔ ∀ t ∈ chosenTargets r, ¬ Faulty s t)) := by
  have hplan : planOf s.markReady r
      = ((chosenTargets r).map fun t => Generation.separate s.markReady
          (Generation.directoryOf (outputOf r) (chosenTargets r) t) t).foldr
        Generation.append Generation.empty := by
    unfold planOf Generation.ofTargets
    rw [hbundle]
    rfl
  have hclear : ∀ t, (Generation.separate s.markReady
      (Generation.directoryOf (outputOf r) (chosenTargets r) t) t).Clear
        ↔ Storable s t :=
    fun t => clear_separate (loneFree_directoryOf houtput t)
  rw [hplan]
  refine ⟨?_, fun h => ?_⟩
  · rw [Generation.clear_foldr, List.forall_mem_map]
    exact forall₂_congr fun t _ => hclear t
  · rw [Generation.passed_foldr (Generation.clear_foldr.mp h),
      List.all_map, List.all_eq_true]
    refine forall₂_congr fun t ht => passed_separate _ ?_
    exact (hclear t).mp
      (Generation.clear_foldr.mp h _ (List.mem_map_of_mem ht))

/-- What is planned with `--bundle`: it can be carried out if every text has
octets, and passes whatever is in it. -/
theorem plan_bundled (houtput : LoneFree (outputOf r).toList)
    (hid : LoneFree s.id.toList) (hbundle : r.has "--bundle" = true) :
    ((planOf s.markReady r).Clear
        ↔ ∀ t ∈ chosenTargets r, LoneFree (archive s t).toList)
      ∧ ((planOf s.markReady r).Clear →
        (planOf s.markReady r).passed = true) := by
  have hplan : planOf s.markReady r
      = ((chosenTargets r).map fun t =>
          Generation.bundled s.markReady (outputOf r) t).foldr
        Generation.append Generation.empty := by
    unfold planOf Generation.ofTargets
    rw [hbundle]
    rfl
  rw [hplan]
  refine ⟨?_, fun h => ?_⟩
  · rw [Generation.clear_foldr, List.forall_mem_map]
    exact forall₂_congr fun t _ => clear_bundled houtput hid
  · rw [Generation.passed_foldr (Generation.clear_foldr.mp h), List.all_map,
      List.all_eq_true]
    exact fun t _ => rfl

/-- The id of a server comes from its title. -/
theorem id_of_server (hserver : d.server = .ok (s, reports)) :
    s.id = "mcp_" ++ String.ofList (Naming.sanitize s.name.toList) := by
  obtain ⟨info, -, h⟩ := Steps.bind_eq_ok.mp hserver
  obtain ⟨_, -, h⟩ := Steps.bind_eq_ok.mp h
  obtain ⟨⟨endpoints, found⟩, -, h⟩ := Steps.bind_eq_ok.mp h
  dsimp only at h
  split at h
  · cases h
  obtain ⟨title, -, h⟩ := Steps.bind_eq_ok.mp h
  obtain ⟨version, -, h⟩ := Steps.bind_eq_ok.mp h
  obtain ⟨baseUrl, -, h⟩ := Steps.bind_eq_ok.mp h
  obtain ⟨description, -, h⟩ := Steps.bind_eq_ok.mp h
  cases h
  rfl

/-- The id of a server has octets, whatever its title holds. -/
theorem loneFree_id (hserver : d.server = .ok (s, reports)) :
    LoneFree s.id.toList := by
  have hfirst : LoneFree "mcp_".toList := by decide
  have hvisible : Visible (Naming.sanitize s.name.toList) := fun c hc =>
    isVisible_of_isNameChar (List.all_eq_true.mp (Naming.all_sanitize _) c hc)
  have hsecond : LoneFree
      (String.ofList (Naming.sanitize s.name.toList)).toList := by
    rw [String.toList_ofList]
    exact hvisible.loneFree
  rw [id_of_server hserver, String.toList_append, loneFree_append]
  exact ⟨hfirst, hsecond⟩

/-- The command has reported that generated code did not pass its checks, and
ended with an error. -/
def Rejected (ended : Except Ending Unit) : Prop :=
  ∃ e, ended = .error e ∧ e.status = 1
    ∧ e.report = "Error: Generated code failed validation\n"

theorem rejected_rejection : Rejected (.error rejection) :=
  ⟨rejection, rfl, rfl, by decide⟩

theorem not_rejected_ok : ¬ Rejected (.ok ()) := by
  rintro ⟨_, ⟨⟩, -⟩

/-- A failure that the command does not deal with is not reported. -/
theorem not_rejected_failed (failure : Failure) :
    ¬ Rejected (.error (.failed failure)) := by
  rintro ⟨e, ⟨⟩, -, hreport⟩
  have hnone : (Ending.failed failure).report = String.ofList [] := rfl
  rw [hnone] at hreport
  exact absurd hreport (by decide)

/-- How the command ends in any world, by its plan. -/
theorem generate_cases (hhost : Obliging host (place r 0) d)
    (hserver : d.server = .ok (s, reports))
    (hplace : LoneFree (Path.normal (place r 0)).toList)
    (houtput : LoneFree (outputOf r).toList) (w : σ) :
    let plan := planOf s.markReady r
    let ended := ((generate host r).run.run w).1
    (Rejected ended ↔ plan.Clear ∧ plan.passed = false)
      ∧ (ended = .ok () ↔ plan.Clear ∧ plan.passed = true) := by
  intro plan ended
  by_cases hclear : plan.Clear
  · have hended : ended = if plan.passed then .ok () else .error rejection :=
      ends_generate hhost hserver hplace
        (ends_carryOut_clear hhost houtput hclear) w
    rw [hended]
    cases plan.passed with
    | true =>
        refine ⟨iff_of_false not_rejected_ok fun h => ?_,
          iff_of_true rfl ⟨hclear, rfl⟩⟩
        cases h.2
    | false =>
        refine ⟨iff_of_true rejected_rejection ⟨hclear, rfl⟩,
          iff_of_false (fun h => ?_) fun h => ?_⟩
        · cases h
        · cases h.2
  · obtain ⟨failure, hfails⟩ :=
      ends_carryOut_lone hhost houtput hclear
    have hended : ended = .error (.failed failure) :=
      ends_generate hhost hserver hplace hfails w
    rw [hended]
    refine ⟨iff_of_false (not_rejected_failed failure) fun h => hclear h.1,
      iff_of_false (fun h => ?_) fun h => hclear h.1⟩
    cases h

/-- With `--bundle` the command never reports faulty code. -/
theorem not_rejected_bundled (hhost : Obliging host (place r 0) d)
    (hserver : d.server = .ok (s, reports))
    (hplace : LoneFree (Path.normal (place r 0)).toList)
    (houtput : LoneFree (outputOf r).toList) (w : σ)
    (hbundle : r.has "--bundle" = true) :
    ¬ Rejected ((generate host r).run.run w).1 := by
  obtain ⟨hrejected, -⟩ := generate_cases hhost hserver hplace houtput w
  rw [hrejected]
  rintro ⟨hclear, hpassed⟩
  rw [(plan_bundled houtput (loneFree_id hserver) hbundle).2 hclear] at hpassed
  cases hpassed

/-- A host with one text for every path, that keeps what is written. -/
def shelf (content : String) : Host (StateM (List (String × String))) where
  environment := []
  entry := fun _ => pure none
  read := fun _ => pure (.ok content)
  makeDirectory := fun _ => pure (.ok ())
  write := fun path text => do
    modify (·.concat (path, text))
    return .ok ()
  print := fun _ => pure ()
  warn := fun _ => pure ()
  configure := fun _ => pure ()
  report := fun _ => pure ()
  send := fun _ _ => pure (.error ⟨"ConnectError", ""⟩)
  complete := fun _ => pure (.error (.other ""))

theorem obliging_shelf {content path : String}
    (h : Document.load (String.ofList (unifyBreaks content.toList)) (some path)
      = .ok d) : Obliging (shelf content) path d :=
  ⟨⟨content, fun _ => rfl, h⟩, fun _ _ => rfl, fun _ _ _ => rfl⟩

/-- A description with a title that breaks the Python source. -/
def unmatchedText : String :=
  "\x7b\"info\": \x7b\"title\": \"T\\r)\"\x7d, \"paths\": "
    ++ "\x7b\"/a\": \x7b\"get\": \x7b\x7d\x7d\x7d\x7d"

/-- What this description gives: the title, and whether what is written about
it has octets. -/
def examined (d : Document) : Option (String × Bool) :=
  d.server.toOption.map fun (s, _) =>
    (s.name, decide ((∀ line ∈ Python.head s, Plain line)
      ∧ (∀ t ∈ tools s, ∀ line ∈
        Python.declaration t ++ Python.handler t ++ [Python.entry t],
        Plain line)
      ∧ LoneFree s.description.toList
      ∧ (∀ line ∈ s.endpoints.flatMap guideEndpoint, LoneFree line)
      ∧ LoneFree s.baseUrl.toList))

/-- The description is accepted. Its Python package can be stored, and its
check reports an error. -/
theorem exists_unmatched :
    ∃ d s reports,
      Document.load (String.ofList (unifyBreaks unmatchedText.toList))
        (some "spec.json") = .ok d
      ∧ d.server = .ok (s, reports)
      ∧ Storable s .python ∧ Faulty s .python := by
  have hrun : ((Document.load
      (String.ofList (unifyBreaks unmatchedText.toList))
      (some "spec.json")).toOption.bind examined)
        = some (unmatchedTitle, true) := by
    decide +kernel
  obtain ⟨d, hload, hexamined⟩ := Option.bind_eq_some_iff.mp hrun
  obtain ⟨⟨s, reports⟩, hserver, hfacts⟩ :=
    Option.map_eq_some_iff.mp hexamined
  have hmade := Steps.eq_ok_of_toOption hserver
  obtain ⟨hname, hfound⟩ := Prod.mk.inj hfacts
  obtain ⟨hhead, htools, hdescription, hendpoints, hurl⟩ :=
    of_decide_eq_true hfound
  have hplain := plain_python hhead htools
  have hfaulty := faulty_unmatched hmade hname hplain
  refine ⟨d, s, reports, Steps.eq_ok_of_toOption hload, hmade, ⟨?_, ?_⟩,
    hfaulty⟩
  · obtain ⟨found, hfaults, -⟩ := hfaulty
    exact ⟨found, hfaults⟩
  · have htitle : LoneFree s.name.toList := by
      rw [hname]
      decide
    have hlist : LoneFree (manifest s .python).2.toList :=
      (show LoneFree "mcp>=1.2,<2\nhttpx>=0.27\n".toList by decide)
    have hsource : LoneFree (packagedSource s .python).toList := by
      rw [packagedSource_of_server hmade]
      exact hplain.loneFree
    have hguide := loneFree_guide .python htitle hdescription hendpoints hurl
    intro file hfile
    simp only [package, List.mem_cons, List.not_mem_nil, or_false] at hfile
    rcases hfile with rfl | rfl | rfl
    · exact hlist
    · exact hsource
    · exact hguide

/-- A reading that asks for the Python package of that description. -/
def unmatchedReading (bundle : Bool) : Reading :=
  ⟨(if bundle then [("--bundle", "")] else [])
    ++ [("--output", "out"), ("--target", "python")], ["spec.json"]⟩

end Toolsmith.Command
