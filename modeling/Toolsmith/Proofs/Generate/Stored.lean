/-
The source that a server keeps, through the life of the server. A server gets
its sources once, when it is made, and every later change copies them. A
package takes the kept source, so it always has the source of the server as
it was made; the guide next to it is written anew each time.

A source depends on the base URL in one place, behind a text and in front of
a text that both do not, and on the status and the credentials not at all. So
the kept source is the source of the changed server exactly if the literal of
the base URL is still the same.
-/
import Toolsmith.Proofs.Generate.RoundTrip

namespace Toolsmith

-- ============================================================== changes

namespace Server

/-- A change in the life of a server. -/
inductive Change where
  | ready
  | error
  | baseUrl (url : Option String)
  | auth (auth : Option Auth)

/-- The server with a change. -/
def Change.apply : Change → Server → Server
  | ready, s => s.markReady
  | error, s => s.markError
  | baseUrl url, s => s.withBaseUrl url
  | auth a, s => s.withAuth a

/-- The server after changes, one after the other. -/
def after (s : Server) (changes : List Change) : Server :=
  changes.foldl (fun s change => change.apply s) s

/-- Nothing but the status, the base URL and the credentials is different. -/
def Keeps (s later : Server) : Prop :=
  later = { s with
    status := later.status, baseUrl := later.baseUrl, auth := later.auth }

/-- A change keeps everything else. -/
theorem Keeps.apply {s later : Server} (h : s.Keeps later) (change : Change) :
    s.Keeps (change.apply later) := by
  unfold Keeps at h ⊢
  rw [h]
  cases change with
  | ready | error | auth => rfl
  | baseUrl url =>
      simp only [Change.apply, withBaseUrl]
      split <;> rfl

/-- So do changes one after the other. -/
theorem keeps_after (s : Server) (changes : List Change) :
    s.Keeps (s.after changes) := by
  have hrun : ∀ later : Server, s.Keeps later →
      s.Keeps (later.after changes) := by
    induction changes with
    | nil => exact fun _ h => h
    | cons change rest ih => exact fun _ h => ih _ (h.apply change)
  exact hrun s rfl

end Server

namespace Generate

-- ============================================================== sources

/-- A text as a literal of the language. -/
def Target.quoted : Target → String → List Char
  | javascript => JavaScript.quoted
  | python => Python.quoted

/-- The sources of a server before and after changes are the same exactly if
the literals of the base URL are: everything around them stays. -/
theorem source_eq_iff (t : Target) {s later : Server} (h : s.Keeps later) :
    t.source later = t.source s
      ↔ t.quoted later.baseUrl = t.quoted s.baseUrl := by
  have htools : tools later = tools s := by rw [h]; rfl
  have hname : later.name = s.name := by rw [h]
  have hdescription : later.description = s.description := by rw [h]
  have hversion : later.version = s.version := by rw [h]
  cases t with
  | javascript =>
      simp only [Target.source, Target.quoted, JavaScript.source,
        JavaScript.lines, JavaScript.head, packageName, render, htools, hname,
        hdescription, hversion, List.flatMap_append, List.flatMap_cons,
        List.append_assoc, List.append_cancel_left_eq,
        List.append_cancel_right_eq, String.ofList_inj]
  | python =>
      simp only [Target.source, Target.quoted, Python.source, Python.lines,
        Python.head, packageName, render, htools, hname, hdescription,
        hversion, List.flatMap_append, List.flatMap_cons, List.append_assoc,
        List.append_cancel_left_eq, List.append_cancel_right_eq,
        String.ofList_inj]

/-- A source has lines. -/
theorem source_ne_empty (t : Target) (s : Server) : t.source s ≠ "" := by
  have hrender : ∀ {lines : Lines}, lines ≠ [] → render lines ≠ "" := by
    intro lines hne h
    have hnone := String.ofList_eq_empty_iff.mp h
    obtain ⟨line, hline⟩ := List.exists_mem_of_ne_nil lines hne
    cases List.append_eq_nil_iff.mp
      (List.flatMap_eq_nil_iff.mp hnone line hline) with
    | intro _ hbreak => cases hbreak
  cases t with
  | javascript => exact hrender (by simp [JavaScript.lines, JavaScript.head])
  | python => exact hrender (by simp [Python.lines, Python.head])

-- ============================================================= packages

/-- A source that a server keeps goes into its packages. -/
theorem packagedSource_of_codeFor {s : Server} {t : Target} {source : String}
    (h : s.codeFor t.name = some source) (hne : source ≠ "") :
    packagedSource s t = source := by
  have hgiven : given? (some source) = some source :=
    Option.filter_eq_some_iff.mpr ⟨rfl, bne_iff_ne.mpr hne⟩
  rw [packagedSource, h, hgiven]
  rfl

/-- The three files of a package. -/
theorem lookup_package (s : Server) (t : Target) :
    (package s t).lookup t.filename = some (packagedSource s t)
      ∧ (package s t).lookup "README.md" = some (guide s t) := by
  cases t <;> exact ⟨rfl, rfl⟩

/-- Whatever document a server is made from, and whatever changes it goes
through: a package has the source of the server as it was made, next to a guide
to the server as it is. It is the source of the server as it is exactly if the
literal of the base URL is still the same. -/
theorem package_after {d : Document} {s : Server} {reports : List Log.Entry}
    (h : d.server = .ok (s, reports)) (changes : List Server.Change)
    (t : Target) :
    (package (s.after changes) t).lookup t.filename = some (t.source s)
      ∧ (package (s.after changes) t).lookup "README.md"
        = some (guide (s.after changes) t)
      ∧ ((package (s.after changes) t).lookup t.filename
          = some (t.source (s.after changes))
        ↔ t.quoted (s.after changes).baseUrl = t.quoted s.baseUrl) := by
  have hkeeps := s.keeps_after changes
  have hcode : (s.after changes).codeFor t.name = some (t.source s) := by
    rw [hkeeps]
    exact (Document.server_eq_ok h).2 t
  obtain ⟨hfile, hguide⟩ := lookup_package (s.after changes) t
  rw [packagedSource_of_codeFor hcode (source_ne_empty t s)] at hfile
  refine ⟨hfile, hguide, ?_⟩
  rw [hfile, Option.some_inj, eq_comm]
  exact source_eq_iff t hkeeps

/-- The server of the document with nothing but a title and one operation. -/
theorem server_titled :
    ∃ s reports, (titled "T").server = .ok (s, reports)
      ∧ s.baseUrl = Document.placeholderUrl := by
  have hrun : (titled "T").server.toOption.map (fun made => made.1.baseUrl)
      = some Document.placeholderUrl := by
    decide +kernel
  cases h : (titled "T").server with
  | error failure => rw [h] at hrun; cases hrun
  | ok made =>
      rw [h] at hrun
      exact ⟨made.1, made.2, rfl, Option.some.inj hrun⟩

/-- This server is ready, keeps its base URL and gets credentials: its packages
have its own source. -/
theorem package_after_kept :
    ∃ s reports, (titled "T").server = .ok (s, reports)
      ∧ ∀ t, (package (s.after
            [.ready, .baseUrl (some ""), .auth (some {})]) t).lookup
          t.filename
        = some (t.source (s.after
            [.ready, .baseUrl (some ""), .auth (some {})])) := by
  obtain ⟨s, reports, hserver, -⟩ := server_titled
  refine ⟨s, reports, hserver, fun t => ?_⟩
  exact (package_after hserver _ t).2.2.mpr rfl

/-- Not every package has the source of its server: one that has moved to
another base URL is packaged with the source of the old one. -/
theorem not_forall_packaged :
    ¬ ∀ (d : Document) s reports, d.server = .ok (s, reports) →
      ∀ changes t, (package (s.after changes) t).lookup t.filename
        = some (t.source (s.after changes)) := by
  intro hall
  obtain ⟨s, reports, hserver, hurl⟩ := server_titled
  have hmoved : JavaScript.quoted "https://b.example"
      = JavaScript.quoted s.baseUrl :=
    (package_after hserver [.baseUrl (some "https://b.example")]
      .javascript).2.2.mp (hall _ s reports hserver _ _)
  rw [hurl] at hmoved
  revert hmoved
  decide +kernel

end Generate

end Toolsmith
