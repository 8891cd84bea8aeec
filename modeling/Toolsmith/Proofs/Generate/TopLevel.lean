/-
The names at the top level of a generated source are told apart. There are
three kinds: the fixed ones of the template, in JavaScript a constant for each
tool, and a handler for each tool. A constant is the id of an endpoint with an
ending, and a handler is the id behind a prefix, so neither kind repeats a name.
No fixed name has the prefix, or in JavaScript the ending. A constant begins
with a verb, since ids do, and no verb begins like the prefix.

These are all the names that the source declares if every path stays on its row
of a comment, and in Python the title too. What is behind the first row of a
path is read like the rest of the source, and it can declare a name again.
-/
import Toolsmith.Proofs.Generate.Outline.JavaScript
import Toolsmith.Proofs.Generate.Outline.Python
import Toolsmith.Proofs.Generate.RoundTrip

namespace Toolsmith.Generate

open Naming (isIdentifier)
open Outline
open Text

variable {t : Target} {tools : List Tool} {k : Tool}

-- =============================================================== names

/-- The words that cannot be names at the top level of a module. -/
def reserved : Target → List String
  | .javascript =>
    ["arguments", "await", "break", "case", "catch", "class", "const",
     "continue", "debugger", "default", "delete", "do", "else", "enum", "eval",
     "export", "extends", "false", "finally", "for", "function", "if",
     "implements", "import", "in", "instanceof", "interface", "let", "new",
     "null", "package", "private", "protected", "public", "return", "static",
     "super", "switch", "this", "throw", "true", "try", "typeof", "var",
     "void", "while", "with", "yield"]
  | .python => Script.keywords

/-- The text can be declared as a name. -/
structure IsName (t : Target) (name : String) : Prop where
  identifier : isIdentifier name.toList = true
  free : name ∉ reserved t

/-- No reserved word has an underscore. -/
theorem isName_of_underscore {name : String}
    (hname : isIdentifier name.toList = true) (h : '_' ∈ name.toList) :
    IsName t name := by
  refine ⟨hname, fun hmem => ?_⟩
  have hall : (reserved t).all (fun word => !word.toList.contains '_')
      = true := by
    cases t <;> decide
  have hword := List.all_eq_true.mp hall name hmem
  rw [List.contains_iff_mem.mpr h] at hword
  cases hword

/-- The names of the template. -/
def fixedNames : Target → List String
  | .javascript => JavaScript.headNames ++ ["HANDLERS", "callApi", "main"]
  | .python =>
    Python.headNames
      ++ ["TOOLS", "_call_api", "HANDLERS", "list_tools", "call_tool", "main"]

/-- The constants of the tools. -/
def constants (t : Target) (tools : List Tool) : List String :=
  match t with
  | .javascript => tools.map JavaScript.constant
  | .python => []

/-- The names that a source for these tools declares if no text of the document
declares another one. -/
def topNames (t : Target) (tools : List Tool) : List String :=
  match t with
  | .javascript => JavaScript.topNames (fun _ => []) tools
  | .python => Python.topNames (fun _ => []) tools

theorem topNames_perm (t : Target) (tools : List Tool) :
    (topNames t tools).Perm
      (fixedNames t ++ (constants t tools ++ tools.map Tool.handler)) := by
  have hhandlers : tools.flatMap (fun k => [k.handler])
      = tools.map Tool.handler :=
    List.map_eq_flatMap.symm
  refine List.perm_iff_count.mpr fun name => ?_
  cases t with
  | javascript =>
      simp only [topNames, fixedNames, constants, JavaScript.topNames,
        List.nil_append, hhandlers, List.count_append, List.count_cons,
        List.count_nil]
      omega
  | python =>
      simp only [topNames, fixedNames, constants, Python.topNames,
        List.nil_append, hhandlers, List.count_append, List.count_cons,
        List.count_nil]
      omega

/-- The tools are told apart by keys that begin with verbs, and each handler is
named after its key. -/
structure AreApart (tools : List Tool) : Prop where
  named : ∀ k ∈ tools, k.IsNamed
  keys : (tools.map Tool.key).Nodup
  verb : ∀ k ∈ tools, ∃ verb ∈ Document.verbs, verb.toList <+: k.key.toList
  handler : ∀ k ∈ tools, k.handler = "handle_" ++ k.key

namespace AreApart

theorem nodup_constants (h : AreApart tools) (t : Target) :
    (constants t tools).Nodup := by
  cases t with
  | javascript =>
      have hconstants : constants .javascript tools
          = (tools.map Tool.key).map (· ++ "_tool") := by
        rw [List.map_map]
        rfl
      rw [hconstants]
      exact h.keys.map fun _ _ => (String.append_left_inj "_tool").mp
  | python => exact List.nodup_nil

theorem nodup_handlers (h : AreApart tools) :
    (tools.map Tool.handler).Nodup := by
  have hhandlers : tools.map Tool.handler
      = (tools.map Tool.key).map ("handle_" ++ ·) := by
    rw [List.map_map]
    exact List.map_congr_left h.handler
  rw [hhandlers]
  exact h.keys.map fun _ _ => (String.append_right_inj "handle_").mp

theorem prefix_handler (h : AreApart tools) (hk : k ∈ tools) :
    "handle_".toList <+: k.handler.toList := by
  rw [h.handler k hk, String.toList_append]
  exact List.prefix_append _ _

/-- A constant begins with a verb, and a handler with a prefix that no verb
begins like. -/
theorem constant_ne_handler (h : AreApart tools) (hk : k ∈ tools)
    {other : Tool} (hother : other ∈ tools) :
    JavaScript.constant k ≠ other.handler := by
  intro heq
  have hverbs : ∀ verb ∈ Document.verbs,
      ¬ verb.toList <+: "handle_".toList
        ∧ ¬ "handle_".toList <+: verb.toList := by
    decide
  obtain ⟨verb, hverb, hkey⟩ := h.verb k hk
  have hconstant : verb.toList <+: (JavaScript.constant k).toList := by
    rw [JavaScript.constant, String.toList_append]
    exact hkey.trans (List.prefix_append _ _)
  have hhandler := h.prefix_handler hother
  rw [← heq] at hhandler
  rcases List.prefix_or_prefix_of_prefix hconstant hhandler with hin | hin
  · exact (hverbs verb hverb).1 hin
  · exact (hverbs verb hverb).2 hin

theorem disjoint_constants (h : AreApart tools) (t : Target) :
    (constants t tools).Disjoint (tools.map Tool.handler) := by
  refine List.disjoint_left.mpr fun name hconstant hhandler => ?_
  cases t with
  | javascript =>
      obtain ⟨k, hk, rfl⟩ := List.mem_map.mp hconstant
      obtain ⟨other, hother, heq⟩ := List.mem_map.mp hhandler
      exact h.constant_ne_handler hk hother heq.symm
  | python => cases hconstant

theorem disjoint_fixedNames (h : AreApart tools) (t : Target) :
    (fixedNames t).Disjoint (constants t tools ++ tools.map Tool.handler) := by
  refine List.disjoint_append_right.mpr
    ⟨List.disjoint_left.mpr fun name hfixed hconstant => ?_,
      List.disjoint_left.mpr fun name hfixed hhandler => ?_⟩
  · cases t with
    | javascript =>
        have hnone : ∀ name ∈ fixedNames .javascript,
            ¬ "_tool".toList <:+ name.toList := by
          decide
        obtain ⟨k, -, rfl⟩ := List.mem_map.mp hconstant
        refine hnone _ hfixed ?_
        rw [JavaScript.constant, String.toList_append]
        exact List.suffix_append _ _
    | python => cases hconstant
  · have hnone : ∀ name ∈ fixedNames t,
        ¬ "handle_".toList <+: name.toList := by
      cases t <;> decide
    obtain ⟨k, hk, rfl⟩ := List.mem_map.mp hhandler
    exact hnone _ hfixed (h.prefix_handler hk)

/-- All names are pairwise distinct. -/
theorem nodup_topNames (h : AreApart tools) (t : Target) :
    (topNames t tools).Nodup := by
  have hfixed : (fixedNames t).Nodup := by
    cases t <;> decide
  rw [(topNames_perm t tools).nodup_iff, List.nodup_append',
    List.nodup_append']
  exact ⟨hfixed, ⟨h.nodup_constants t, h.nodup_handlers,
    h.disjoint_constants t⟩, h.disjoint_fixedNames t⟩

/-- All names can be declared. -/
theorem isName_topNames (h : AreApart tools) (t : Target) :
    ∀ name ∈ topNames t tools, IsName t name := by
  intro name hname
  rw [(topNames_perm t tools).mem_iff] at hname
  rcases List.mem_append.mp hname with hfixed | hname
  · have hall : ∀ name ∈ fixedNames t,
        isIdentifier name.toList = true ∧ name ∉ reserved t := by
      cases t <;> decide
    obtain ⟨hidentifier, hfree⟩ := hall name hfixed
    exact ⟨hidentifier, hfree⟩
  rcases List.mem_append.mp hname with hconstant | hhandler
  · cases t with
    | javascript =>
        obtain ⟨k, hk, rfl⟩ := List.mem_map.mp hconstant
        refine isName_of_underscore
          (JavaScript.isIdentifier_constant (h.named k hk)) ?_
        rw [JavaScript.constant, String.toList_append]
        exact List.mem_append_right _ (by decide)
    | python => cases hconstant
  · obtain ⟨k, hk, rfl⟩ := List.mem_map.mp hhandler
    exact isName_of_underscore (h.named k hk).handler
      ((h.prefix_handler hk).subset (by decide))

end AreApart

-- ============================================================= servers

variable {s : Server} {d : Document} {reports : List Log.Entry}

/-- The tools of an accepted document are told apart. -/
theorem areApart_of_server (h : d.server = .ok (s, reports)) :
    AreApart (Generate.tools s) := by
  obtain ⟨⟨_, hcatalog⟩, -⟩ := Document.catalog_of_server h
  obtain ⟨hcallable, -⟩ := Document.server_eq_ok h
  obtain ⟨hids, -⟩ := Document.catalog_identifiers hcatalog
  rw [tools_of_isCallable hcallable]
  refine ⟨List.forall_mem_map.mpr fun e he => ?_, ?_,
    List.forall_mem_map.mpr fun _ he =>
      Document.verb_of_mem_catalog hcatalog he,
    List.forall_mem_map.mpr fun _ _ => rfl⟩
  · refine ⟨(hcallable e he).id, ?_, (hcallable e he).name⟩
    show isIdentifier ("handle_" ++ e.id).toList = true
    rw [String.toList_append]
    exact Naming.isIdentifier_append (by decide)
      (Naming.all_isNameChar_of_isIdentifier (hcallable e he).id)
  · rw [List.map_map]
    exact hids

/-- No text that a comment holds in one row goes on in another one. -/
structure StaysOnRows (t : Target) (s : Server) : Prop where
  title : t = .python → '\r' ∉ s.name.toList
  paths : ∀ e ∈ s.endpoints, ∀ c ∈ e.path.toList, isBreak t c = false

theorem isBreak_of_isIdentifier {text : List Char}
    (h : isIdentifier text = true) : ∀ c ∈ text, isBreak t c = false := by
  intro c hc
  have hname := List.all_eq_true.mp
    (Naming.all_isNameChar_of_isIdentifier h) c hc
  have hother : ∀ d, isNameChar d = false → (c == d) = false := fun d hd =>
    beq_eq_false_iff_ne.mpr (ne_of_apply_ne isNameChar (by simp [hname, hd]))
  unfold isBreak
  rw [hother '\n' (by decide), hother '\r' (by decide),
    hother '\u2028' (by decide), hother '\u2029' (by decide)]
  simp

/-- The source for a target declares its names, and makes one dispatch table,
with an entry for each tool. -/
theorem outline_source (hcallable : ∀ e ∈ s.endpoints, e.IsCallable)
    (hnamed : ∀ k ∈ Generate.tools s, k.IsNamed) (hrows : StaysOnRows t s) :
    Outline.of? t (t.source s)
      = some ⟨topNames t (Generate.tools s),
        [(Generate.tools s).map Tool.entry]⟩ := by
  have htexts : ∀ k ∈ Generate.tools s,
      (∀ c ∈ k.method.toList, isBreak t c = false)
        ∧ ∀ c ∈ k.path.toList, isBreak t c = false := by
    rw [tools_of_isCallable hcallable]
    exact List.forall_mem_map.mpr fun e he =>
      ⟨isBreak_of_isIdentifier (hcallable e he).method, hrows.paths e he⟩
  cases t with
  | javascript =>
      refine of?_eq_some (JavaScript.says_source hnamed fun k hk => ?_)
      obtain ⟨hmethod, hpath⟩ := htexts k hk
      exact JavaScript.says_heading _ hmethod hpath rfl says_nil
  | python =>
      refine of?_eq_some (Python.says_source (hrows.title rfl) hnamed
        fun k hk => ?_)
      obtain ⟨hmethod, hpath⟩ := htexts k hk
      exact Python.says_heading hmethod hpath

/-- Whatever document a server is made from: each endpoint has one tool, all
names at the top level of a source are distinct and can be declared, and the
names of the tools are distinct keys of the dispatch table. The source that the
server keeps declares exactly these names, and its one dispatch table sends the
name of each endpoint to the handler of that endpoint, if the title and the
paths stay on their rows. -/
theorem server_topLevel (h : d.server = .ok (s, reports)) (t : Target) :
    Generate.tools s = s.endpoints.map .ofEndpoint
      ∧ (topNames t (Generate.tools s)).Nodup
      ∧ (∀ name ∈ topNames t (Generate.tools s), IsName t name)
      ∧ (s.endpoints.map Endpoint.name).Nodup
      ∧ "__proto__" ∉ s.endpoints.map Endpoint.name
      ∧ ∃ source, s.codeFor t.name = some source
        ∧ (StaysOnRows t s → Outline.of? t source
            = some ⟨topNames t (Generate.tools s),
              [s.endpoints.map fun e => (e.name, "handle_" ++ e.id)]⟩) := by
  obtain ⟨⟨_, hcatalog⟩, hcode⟩ := Document.catalog_of_server h
  obtain ⟨hcallable, -⟩ := Document.server_eq_ok h
  obtain ⟨-, hnames, -⟩ := Document.catalog_identifiers hcatalog
  have hapart := areApart_of_server h
  have htools := tools_of_isCallable hcallable
  refine ⟨htools, hapart.nodup_topNames t, hapart.isName_topNames t, hnames, ?_,
    t.source s, hcode t, fun hrows => ?_⟩
  · intro hproto
    obtain ⟨e, he, hname⟩ := List.mem_map.mp hproto
    have hsqueezed := Document.isSqueezed_of_mem_catalog hcatalog he
    rw [hname] at hsqueezed
    obtain ⟨c, hlast, hdigit⟩ := hsqueezed (by decide)
    obtain rfl : '_' = c := Option.some.inj hlast
    cases hdigit
  · rw [outline_source hcallable hapart.named hrows, htools, List.map_map]
    rfl

theorem path_of_endpoints {name path : String}
    (h : s.endpoints.map (fun e => (e.name, e.path)) = [(name, path)])
    {e : Endpoint} (he : e ∈ s.endpoints) : e.path = path := by
  have hmem : (e.name, e.path) ∈ [(name, path)] := h ▸ List.mem_map_of_mem he
  exact (Prod.mk.inj (List.mem_singleton.mp hmem)).2

/-- The one tool of this document is declared in the source for each
target. -/
theorem server_topLevel_titled :
    ∃ s reports, (titled "T").server = .ok (s, reports) ∧ ∀ t : Target,
      ∃ source, s.codeFor t.name = some source
        ∧ Outline.of? t source
          = some ⟨topNames t (Generate.tools s),
            [s.endpoints.map fun e => (e.name, "handle_" ++ e.id)]⟩
        ∧ (topNames t (Generate.tools s)).Nodup := by
  have hrun : summary (titled "T") = some ("T", [("a", "/a")]) := by
    decide
  obtain ⟨s, reports, hserver, hname, hendpoints⟩ := server_of_summary hrun
  refine ⟨s, reports, hserver, fun t => ?_⟩
  obtain ⟨-, hnodup, -, -, -, source, hsource, houtline⟩ :=
    server_topLevel hserver t
  have hrows : StaysOnRows t s := by
    refine ⟨fun _ => by rw [hname]; decide, fun e he => ?_⟩
    rw [path_of_endpoints hendpoints he]
    exact forall_of_check (by cases t <;> rfl)
  exact ⟨source, hsource, houtline hrows, hnodup⟩

-- ============================================================== breaks

/-- The name of the last function is declared twice if the heading of a tool
declares it too. -/
theorem not_nodup_topNames {said : Tool → List String} (hk : k ∈ tools)
    (hsaid : "main" ∈ said k) : ¬ (JavaScript.topNames said tools).Nodup := by
  intro hnodup
  have hmain : "main" ∈ tools.flatMap fun k => said k ++ [k.handler] :=
    List.mem_flatMap.mpr ⟨k, hk, List.mem_append_left _ hsaid⟩
  obtain ⟨-, -, hapart⟩ := List.nodup_append.mp hnodup
  exact hapart "main" (List.mem_append_right _ hmain) "main"
    List.mem_cons_self rfl

/-- A document whose one path has a second row, with a declaration. -/
def broken : Document :=
  let entries : List (Value × Value) :=
    [(.text "info", .ofFields [("title", .text "T")]),
     (.text "paths", .ofFields
      [("/a\nconst main = 1;", .ofFields
        [("get", .ofFields [("operationId", .text "a")])])])]
  ⟨.ofValue (.map entries), entries⟩

/-- The names of a source are not distinct whatever the document: a path can
declare one again. -/
theorem not_forall_topLevel :
    ¬ ∀ (d : Document) s reports, d.server = .ok (s, reports) →
      ∀ t : Target, ∃ source outline, s.codeFor t.name = some source
        ∧ Outline.of? t source = some outline ∧ outline.names.Nodup := by
  intro hall
  have hrun : summary broken = some ("T", [("a", "/a\nconst main = 1;")]) := by
    decide
  obtain ⟨s, reports, hserver, -, hendpoints⟩ := server_of_summary hrun
  obtain ⟨hcallable, hcode⟩ := Document.server_eq_ok hserver
  have htools := tools_of_isCallable hcallable
  have hsecond : Says .javascript (top .javascript)
      "const main = 1;\n".toList ⟨["main"], []⟩ :=
    says_of_check (by decide)
  have hsaid : ∀ k ∈ Generate.tools s, Says .javascript (top .javascript)
      (rendered (JavaScript.heading k)) ⟨["main"], []⟩ := by
    rw [htools]
    refine List.forall_mem_map.mpr fun e he => ?_
    refine JavaScript.says_heading "/a".toList
      (isBreak_of_isIdentifier (hcallable e he).method)
      (forall_of_check rfl) ?_ hsecond
    show e.path.toList ++ _ = _
    rw [path_of_endpoints hendpoints he]
    decide
  have houtline := of?_eq_some (JavaScript.says_source
    (areApart_of_server hserver).named hsaid)
  obtain ⟨source, outline, hsource, hread, hnodup⟩ :=
    hall broken s reports hserver .javascript
  obtain rfl := Option.some.inj (hsource.symm.trans (hcode .javascript))
  obtain rfl := Option.some.inj (hread.symm.trans houtline)
  have hlength := congrArg List.length hendpoints
  rw [List.length_map] at hlength
  obtain ⟨e, he⟩ := List.exists_mem_of_length_pos
    (hlength ▸ Nat.one_pos : 0 < s.endpoints.length)
  exact not_nodup_topNames (htools ▸ List.mem_map_of_mem he)
    List.mem_cons_self hnodup

end Toolsmith.Generate
