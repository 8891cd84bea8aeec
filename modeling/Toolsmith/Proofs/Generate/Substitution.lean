/-
The URL that a generated handler calls, before the query is put behind it. The
rows of a handler that give it its value are a start, which is the path, and
one row for each parameter of the path, which replaces the token of the
parameter by its argument. `UrlStatement` has what these rows say, `urlRow` the
row that says it in each language, and `url` what they make when they are run
one after the other.

The rows of the two languages say the same, but in one of them a replacement is
of the first occurrence and in the other one of all. That makes no difference
as long as no token stands in a later one, or comes a second time, which is the
same thing here: then every replacement finds just the one token that it is
for. `Clear` says so of a path. Where it fails there are arguments with which
the two languages call different URLs: a long one for the token that stands
where it should not, and the empty text for all others. One URL has the long
argument twice, the other one once.
-/
import Toolsmith.Generate.Package
import Toolsmith.Proofs.Call.Url
import Toolsmith.Proofs.Document.Tokens

namespace Toolsmith.Generate

open Document (Piece Scan pieces pathTokens distinctTokens)
open Engine (token renderedWith)
open Text

-- ========================================================== statements

/-- A statement of a handler about its URL: it is the base URL and a path, or
what is sought in it is replaced by the argument of a name. -/
inductive UrlStatement where
  | start (path : String)
  | fill (sought name : String)

namespace Target

/-- The row that a statement is. -/
def urlRow : Target → UrlStatement → List Char
  | javascript, .start path =>
    "  let url = BASE_URL + ".toList ++ JavaScript.quoted path ++ [';']
  | javascript, .fill sought name =>
    "  url = url.replace(".toList ++ JavaScript.quoted sought
      ++ ", String(args[".toList ++ JavaScript.quoted name ++ "]));".toList
  | python, .start path =>
    "    url = BASE_URL + ".toList ++ Python.quoted path
  | python, .fill sought name =>
    "    url = url.replace(".toList ++ Python.quoted sought
      ++ ", str(args.get(".toList ++ Python.quoted name ++ ")))".toList

/-- The lines of the handler of a tool. -/
def handler : Target → Tool → Lines
  | javascript => JavaScript.handler
  | python => Python.handler

/-- A line of a handler gives the URL a value. -/
def assigns : Target → List Char → Bool
  | javascript, line =>
    "  let url = ".toList.isPrefixOf line || "  url = ".toList.isPrefixOf line
  | python, line => "    url = ".toList.isPrefixOf line

/-- What replacing does in a language: in one of them the first occurrence
alone is replaced. -/
def replacing : Target → List Char → List Char → List Char → List Char
  | javascript => replaceFirst
  | python => replace

end Target

/-- The statements of a handler about its URL. -/
def Tool.urlStatements (k : Tool) : List UrlStatement :=
  .start k.path :: k.pathParams.map fun name => .fill (braced name) name

/-- Of the lines of a handler those are kept that fill a parameter, and one
above them. -/
theorem filter_lines {p : List Char → Bool} {above between below : Lines}
    {first : List Char} {fill : String → List Char} {ask : String → Lines}
    (habove : above.filter p = [first]) (hfill : ∀ name, p (fill name) = true)
    (hbetween : between.filter p = [])
    (hask : ∀ name, (ask name).filter p = []) (hbelow : below.filter p = [])
    (names asked : List String) :
    (above ++ names.map fill ++ between ++ asked.flatMap ask
      ++ below).filter p = first :: names.map fill := by
  have hfills : (names.map fill).filter p = names.map fill :=
    List.filter_eq_self.mpr (List.forall_mem_map.mpr fun name _ => hfill name)
  have hasks : (asked.flatMap ask).filter p = [] := by
    rw [List.filter_flatMap, List.flatMap_eq_nil_iff]
    exact fun name _ => hask name
  simp only [List.filter_append, habove, hfills, hbetween, hasks, hbelow,
    List.append_nil, List.singleton_append]

/-- The lines of a handler that give its URL a value are these statements, in
both languages. -/
theorem filter_assigns_handler (t : Target) (k : Tool) :
    (t.handler k).filter t.assigns = k.urlStatements.map t.urlRow := by
  rw [Tool.urlStatements, List.map_cons, List.map_map]
  cases t with
  | javascript =>
      show (JavaScript.handler k).filter Target.javascript.assigns = _
      rw [JavaScript.handler, List.append_assoc _ (fixed JavaScript.queryEnd)]
      exact filter_lines rfl (fun _ => rfl) rfl (fun _ => rfl) rfl _ _
  | python =>
      show (Python.handler k).filter Target.python.assigns = _
      rw [Python.handler]
      exact filter_lines rfl (fun _ => rfl) rfl (fun _ => rfl) rfl _ _

-- ============================================================= meaning

/-- The URL behind the base after a statement. An argument comes in as it is,
which holds in both languages of texts without dollar signs. -/
def UrlStatement.run (t : Target) (values : String → String)
    (url : List Char) : UrlStatement → List Char
  | start path => path.toList
  | fill sought name =>
    t.replacing sought.toList (values name).toList url

/-- The URL of a handler behind the base, for the arguments of its
parameters. -/
def Target.url (t : Target) (values : String → String) (k : Tool) :
    List Char :=
  k.urlStatements.foldl (UrlStatement.run t values) []

/-- The names one after the other are filled into a text. -/
def Target.fillAll (t : Target) (text : String → List Char)
    (names : List String) (s : List Char) : List Char :=
  names.foldl (fun url name => t.replacing (token name) (text name) url) s

section Filling

variable {t : Target} {text : String → List Char} {done todo : List String}
  {s : List Char} {ps qs : List Piece} {name : String}

theorem fillAll_cons : t.fillAll text (name :: todo) s
    = t.fillAll text todo (t.replacing (token name) (text name) s) := rfl

theorem fillAll_append : t.fillAll text (done ++ todo) s
    = t.fillAll text todo (t.fillAll text done s) :=
  List.foldl_append

/-- The URL is the path with all its parameters filled in. -/
theorem url_eq (t : Target) (values : String → String) (k : Tool) :
    t.url values k
      = t.fillAll (fun name => (values name).toList) k.pathParams
        k.path.toList := by
  unfold Target.url Tool.urlStatements Target.fillAll
  rw [List.foldl_cons, List.foldl_map]
  refine congrArg₂ (fun f s => List.foldl f s k.pathParams) ?_ rfl
  funext url name
  rw [UrlStatement.run, braced, String.toList_append, String.toList_append]
  rfl

/-- Where a token does not stand, nothing is replaced. -/
theorem fillAll_eq_self (h : ∀ name ∈ todo, ¬ token name <:+: s) :
    t.fillAll text todo s = s := by
  induction todo with
  | nil => rfl
  | cons name rest ih =>
      obtain ⟨hhere, hrest⟩ := List.forall_mem_cons.mp h
      have hself : t.replacing (token name) (text name) s = s := by
        cases t with
        | javascript =>
            exact Copies.eq_self copies_replaceFirst
              (replaceFirst_nil (Engine.token_ne_nil name)) hhere
        | python => exact Copies.eq_self copies_replace rfl hhere
      rw [fillAll_cons, hself]
      exact ih hrest

/-- A name that counts once among the tokens stands once among the pieces. -/
theorem not_mem_of_count_le_one
    (h : (ps.filterMap Piece.name?).count name ≤ 1)
    (hqs : .token name :: qs <:+ ps) : .token name ∉ qs := by
  intro hmem
  have hcount : (name :: qs.filterMap Piece.name?).count name
      ≤ (ps.filterMap Piece.name?).count name :=
    (hqs.filterMap Piece.name?).sublist.count_le name
  rw [List.count_cons_self] at hcount
  have hpos : 0 < (qs.filterMap Piece.name?).count name :=
    List.count_pos_iff.mpr (Document.mem_names_iff.mpr hmem)
  omega

/-- Names are filled in, in both languages, if each of them stands once among
the pieces and in none of the tokens that are left for later. -/
theorem fillAll_renderedWith (t : Target)
    (htext : ∀ name ∈ todo ++ done, '\x7b' ∉ text name) (hscan : Scan s ps)
    (hvalid : ∀ name ∈ todo, name ≠ "" ∧ '\x7d' ∉ name.toList)
    (honce : ∀ name ∈ todo, (ps.filterMap Piece.name?).count name ≤ 1)
    (hpair : todo.Pairwise fun a b => ¬ token a <:+: token b)
    (hcover : ∀ other, .token other ∈ ps → other ∈ done ∨ other ∈ todo
      ∨ ∀ name ∈ todo, ¬ token name <:+: token other) :
    t.fillAll text todo (ps.flatMap (renderedWith text done))
      = ps.flatMap (renderedWith text (todo.reverse ++ done)) := by
  induction todo generalizing done with
  | nil => rfl
  | cons name rest ih =>
      obtain ⟨hvalidHere, hvalidRest⟩ := List.forall_mem_cons.mp hvalid
      obtain ⟨honceHere, honceRest⟩ := List.forall_mem_cons.mp honce
      obtain ⟨hpairHere, hpairRest⟩ := List.pairwise_cons.mp hpair
      have hdone : ∀ other ∈ done, '\x7b' ∉ text other :=
        fun other h => htext other (List.mem_append_right _ h)
      have hlater : ∀ other, .token other ∈ ps → other ∈ done
          ∨ name = other ∨ ¬ token name <:+: token other := by
        intro other hother
        rcases hcover other hother with h | h | h
        · exact Or.inl h
        · rcases List.mem_cons.mp h with rfl | h
          · exact Or.inr (Or.inl rfl)
          · exact Or.inr (Or.inr (hpairHere other h))
        · exact Or.inr (Or.inr (h name List.mem_cons_self))
      have hstep : t.replacing (token name) (text name)
          (ps.flatMap (renderedWith text done))
            = ps.flatMap (renderedWith text (name :: done)) := by
        cases t with
        | javascript =>
            exact Engine.replaceFirst_renderedWith hdone hscan hvalidHere.1
              hvalidHere.2 hlater fun _ => not_mem_of_count_le_one honceHere
        | python =>
            exact Engine.replace_renderedWith hdone hscan hvalidHere.1
              hvalidHere.2 hlater
      have hcoverRest : ∀ other, .token other ∈ ps → other ∈ name :: done
          ∨ other ∈ rest ∨ ∀ name ∈ rest, ¬ token name <:+: token other := by
        intro other hother
        rcases hcover other hother with h | h | h
        · exact Or.inl (List.mem_cons_of_mem _ h)
        · rcases List.mem_cons.mp h with rfl | h
          · exact Or.inl List.mem_cons_self
          · exact Or.inr (Or.inl h)
        · exact Or.inr (Or.inr fun a ha => h a (List.mem_cons_of_mem _ ha))
      have htextRest : ∀ other ∈ rest ++ name :: done,
          '\x7b' ∉ text other := by
        intro other hother
        refine htext other ?_
        simpa [or_left_comm] using hother
      rw [fillAll_cons, hstep]
      refine (ih htextRest hvalidRest honceRest hpairRest hcoverRest).trans ?_
      rw [List.reverse_cons, List.append_assoc, List.singleton_append]

end Filling

-- ================================================================ paths

/-- No token of a path stands in a later one. -/
def Clear (path : String) : Prop :=
  ((pathTokens path.toList).map String.ofList).Pairwise fun a b =>
    ¬ token a <:+: token b

instance (path : String) : Decidable (Clear path) :=
  inferInstanceAs (Decidable (List.Pairwise _ _))

/-- The text has neither braces nor dollar signs, so nothing in it is taken for
a token or for a sign that replacing reads. -/
def Harmless (s : String) : Prop :=
  ∀ c ∈ s.toList, c ≠ '\x7b' ∧ c ≠ '\x7d' ∧ c ≠ '$'

/-- Whatever harmless arguments the parameters of the path have, the handlers in
both languages call one URL, and no token of the path is left in it. -/
def Substitutes (e : Endpoint) : Prop :=
  ∀ values : String → String, (∀ p ∈ e.pathParams, Harmless (values p.name)) →
    Target.javascript.url values (.ofEndpoint e)
        = Target.python.url values (.ofEndpoint e)
      ∧ ∀ name ∈ (pathTokens e.path.toList).map String.ofList,
        ¬ token name <:+: Target.python.url values (.ofEndpoint e)

/-- A token of a path has a name, and no closing brace in it. -/
theorem valid_of_mem_pathTokens {path : List Char} {name : String}
    (h : name ∈ (pathTokens path).map String.ofList) :
    name ≠ "" ∧ '\x7d' ∉ name.toList :=
  ⟨Document.ne_empty_of_scan (Document.scan_pieces path)
      (Document.token_mem_pieces.mpr h),
    Document.closing_not_mem_of_tokens (Document.tokens_iff.mpr rfl) name h⟩

/-- Where no token stands in a later one, none comes a second time. -/
theorem nodup_of_pairwise {names : List String}
    (h : names.Pairwise fun a b => ¬ token a <:+: token b) :
    names.Nodup := by
  refine List.Pairwise.imp ?_ h
  rintro a b hab rfl
  exact hab (List.infix_refl _)

/-- The first tokens of a path are filled in, in both languages, if none of them
stands in a later token. -/
theorem fillAll_front (t : Target) {text : String → List Char}
    {path : List Char} {before rest : List String}
    (htext : ∀ name ∈ before, '\x7b' ∉ text name)
    (hsplit : (pathTokens path).map String.ofList = before ++ rest)
    (hpair : before.Pairwise fun a b => ¬ token a <:+: token b)
    (hcross : ∀ a ∈ before, ∀ b ∈ rest, ¬ token a <:+: token b) :
    t.fillAll text before path
      = (pieces path).flatMap (renderedWith text before.reverse) := by
  have hscan := Document.scan_pieces path
  have honce : ∀ name ∈ before,
      ((pieces path).filterMap Piece.name?).count name ≤ 1 := by
    intro name hname
    have hlater : name ∉ rest :=
      fun hmem => hcross name hname name hmem (List.infix_refl _)
    rw [Document.names_pieces, hsplit, List.count_append,
      List.count_eq_zero_of_not_mem hlater]
    exact List.nodup_iff_count_le_one.mp (nodup_of_pairwise hpair) name
  have hcover : ∀ other, .token other ∈ pieces path → other ∈ []
      ∨ other ∈ before ∨ ∀ name ∈ before, ¬ token name <:+: token other := by
    intro other hother
    have hmem := Document.token_mem_pieces.mp hother
    rw [hsplit] at hmem
    exact Or.inr ((List.mem_append.mp hmem).imp_right
      fun h a ha => hcross a ha other h)
  have hfill := fillAll_renderedWith t (by rwa [List.append_nil]) hscan
    (fun name hname => valid_of_mem_pathTokens
      (hsplit ▸ List.mem_append_left _ hname)) honce hpair hcover
  rwa [Engine.renderedWith_nil hscan, List.append_nil] at hfill

variable {d : Document} {endpoints : List Endpoint}
  {reports : List Log.Entry} {e : Endpoint}

/-- The parameters that a handler fills in are the tokens of the path and then
others, which are declared. -/
theorem pathParams_ofEndpoint (h : d.catalog = .ok (endpoints, reports))
    (he : e ∈ endpoints) :
    ∃ others, (Tool.ofEndpoint e).pathParams = distinctTokens e.path ++ others
      ∧ ∀ name ∈ others, name ∉ distinctTokens e.path
        ∧ ∃ p ∈ e.pathParams, p.name = name := by
  obtain ⟨further, hparams, -⟩ := Document.parameters_of_mem_catalog h he
  have htokens : ((distinctTokens e.path).map Document.tokenParam).filter
      (fun p => p.location == .path)
        = (distinctTokens e.path).map Document.tokenParam :=
    List.filter_eq_self.mpr (List.forall_mem_map.mpr fun _ _ => rfl)
  have hnames : e.pathParams.map (·.name) = distinctTokens e.path
      ++ (further.filter fun p => p.location == .path).map (·.name) := by
    rw [Endpoint.pathParams, Endpoint.paramsAt, hparams, List.filter_append,
      htokens, List.map_append, List.map_map]
    exact congrArg (· ++ _) (List.map_id _)
  have hnodup : (distinctTokens e.path).Nodup := nodup_firstOccurrences _
  have hfirst := firstOccurrences_append (distinctTokens e.path)
    ((further.filter fun p => p.location == .path).map (·.name))
  rw [← hnames, firstOccurrences_of_nodup hnodup] at hfirst
  refine ⟨_, hfirst, fun name hname => ?_⟩
  obtain ⟨hmem, hnot⟩ := List.mem_filter.mp hname
  have hparam : name ∈ e.pathParams.map (·.name) := by
    rw [hnames]
    exact List.mem_append_right _ (mem_firstOccurrences.mp hmem)
  exact ⟨of_decide_eq_true hnot, List.mem_map.mp hparam⟩

/-- On a clear path both languages fill in the same, if no parameter has a
closing brace in its name. -/
theorem substitutes_of_clear (h : d.catalog = .ok (endpoints, reports))
    (he : e ∈ endpoints) (hplain : ∀ p ∈ e.pathParams, '\x7d' ∉ p.name.toList)
    (hclear : Clear e.path) : Substitutes e := by
  intro values hvalues
  obtain ⟨hcover, hnamed⟩ := Engine.pathParams_of_mem_catalog h he
  obtain ⟨others, hparams, hothers⟩ := pathParams_ofEndpoint h he
  have hscan := Document.scan_pieces e.path.toList
  have hnodup := nodup_of_pairwise hclear
  have htokens : distinctTokens e.path
      = (pathTokens e.path.toList).map String.ofList :=
    firstOccurrences_of_nodup hnodup
  rw [htokens] at hparams hothers
  generalize htext : (fun name => (values name).toList) = text
  have hbrace : ∀ name ∈ (pathTokens e.path.toList).map String.ofList,
      '\x7b' ∉ text name := by
    intro name hname hmem
    obtain ⟨p, hp, rfl⟩ := hcover name (Document.token_mem_pieces.mpr hname)
    rw [← htext] at hmem
    exact (hvalues p hp _ hmem).1 rfl
  let done := ((pathTokens e.path.toList).map String.ofList).reverse
  have hgone : ∀ other, .token other ∈ pieces e.path.toList →
      other ∈ done :=
    fun other hother =>
      List.mem_reverse.mpr (Document.token_mem_pieces.mp hother)
  have hstands : ∀ {name : String}, name ≠ "" → '\x7d' ∉ name.toList →
      (token name <:+: (pieces e.path.toList).flatMap (renderedWith text done)
        ↔ .token name ∈ pieces e.path.toList ∧ name ∉ done) :=
    fun hne hclosing => Engine.infix_renderedWith_iff
      (fun name hname => hbrace name (List.mem_reverse.mp hname)) hscan hne
      hclosing fun other hother => Or.inl (hgone other hother)
  have hurl : ∀ t : Target, t.url values (.ofEndpoint e)
      = (pieces e.path.toList).flatMap (renderedWith text done) := by
    intro t
    have hfront : t.fillAll text _ (Tool.ofEndpoint e).path.toList = _ :=
      fillAll_front t hbrace (List.append_nil _).symm hclear
        fun _ _ _ h => (by cases h)
    rw [url_eq, htext, hparams, fillAll_append, hfront]
    refine fillAll_eq_self fun name hname hstanding => ?_
    obtain ⟨hnot, p, hp, rfl⟩ := hothers name hname
    exact hnot (Document.token_mem_pieces.mp
      ((hstands (hnamed p hp) (hplain p hp)).mp hstanding).1)
  rw [hurl, hurl]
  refine ⟨rfl, fun name hname hstanding => ?_⟩
  obtain ⟨hne, hclosing⟩ := valid_of_mem_pathTokens hname
  exact ((hstands hne hclosing).mp hstanding).2 (List.mem_reverse.mpr hname)

-- ============================================================== blocks

/-- The block stands in the text twice. -/
def Twice (block s : List Char) : Prop :=
  ∃ x y z, s = x ++ (block ++ (y ++ (block ++ z)))

section Blocks

variable {block s : List Char} {name : String} {text : String → List Char}
  {names : List String}

theorem length_of_twice (h : Twice block s) :
    2 * block.length ≤ s.length := by
  obtain ⟨x, y, z, rfl⟩ := h
  simp only [List.length_append]
  omega

/-- A token that begins in front of a block as long as itself ends there,
too. -/
theorem prefix_of_block {part behind : List Char} (hclose : '\x7d' ∉ block)
    (hlong : (token name).length ≤ block.length)
    (h : token name <+: part ++ (block ++ behind)) : token name <+: part := by
  by_cases hlength : (token name).length ≤ part.length
  · exact List.prefix_of_prefix_length_le h (List.prefix_append _ _) hlength
  · obtain ⟨more, hmore⟩ := List.prefix_of_prefix_length_le
      (List.prefix_append part (block ++ behind)) h (by omega)
    rw [← hmore] at h hlong hlength
    rw [List.length_append] at hlong hlength
    have hinside : more <+: block :=
      List.prefix_of_prefix_length_le
        ((List.prefix_append_right_inj part).mp h) (List.prefix_append _ _)
        (by omega)
    have hlast : (part ++ more).getLast? = some '\x7d' := by
      rw [hmore]
      exact List.getLast?_concat (l := '\x7b' :: name.toList)
    have hne : more ≠ [] := by
      rintro rfl
      exact hlength (by simp)
    rw [List.getLast?_append_of_ne_nil _ hne] at hlast
    exact absurd (hinside.subset (List.mem_of_getLast? hlast)) hclose

/-- A block without braces stays where it is. -/
theorem replace_block (hopen : '\x7b' ∉ block) (hclose : '\x7d' ∉ block)
    (hlong : (token name).length ≤ block.length) (new x z : List Char) :
    replace (token name) new (x ++ (block ++ z))
      = replace (token name) new x
        ++ (block ++ replace (token name) new z) := by
  rw [replace_append_of_inside (Engine.token_ne_nil name)
      fun part _ _ h => prefix_of_block hclose hlong h,
    replace_append_of_forall fun part hne hpart h => ?_]
  cases part with
  | nil => exact hne rfl
  | cons c rest =>
      obtain ⟨rfl, -⟩ := List.cons_prefix_cons.mp h
      exact hopen (hpart.subset List.mem_cons_self)

/-- So a block that stands there twice does so after all. -/
theorem twice_fillAll (hopen : '\x7b' ∉ block) (hclose : '\x7d' ∉ block)
    (hlong : ∀ name ∈ names, (token name).length ≤ block.length)
    (h : Twice block s) :
    Twice block (Target.python.fillAll text names s) := by
  induction names generalizing s with
  | nil => exact h
  | cons name rest ih =>
      obtain ⟨hhere, hrest⟩ := List.forall_mem_cons.mp hlong
      obtain ⟨x, y, z, rfl⟩ := h
      rw [fillAll_cons]
      refine ih hrest ⟨replace (token name) (text name) x,
        replace (token name) (text name) y,
        replace (token name) (text name) z, ?_⟩
      rw [Target.replacing, replace_block hopen hclose hhere,
        replace_block hopen hclose hhere]

/-- Replacing the first occurrence by nothing makes no text longer. -/
theorem length_fillAll_le (h : ∀ name ∈ names, text name = []) :
    (Target.javascript.fillAll text names s).length ≤ s.length := by
  induction names generalizing s with
  | nil => exact Nat.le_refl _
  | cons name rest ih =>
      obtain ⟨hhere, hrest⟩ := List.forall_mem_cons.mp h
      have hstep := length_replaceFirst_le (Engine.token_ne_nil name)
        (text name) s
      rw [hhere, List.length_nil, Nat.add_zero] at hstep
      rw [fillAll_cons, hhere]
      exact (ih hrest).trans hstep

end Blocks

-- =========================================================== differing

/-- It is enough to look at the items in front of which all is as it should
be. -/
theorem pairwise_of_forall_split {α : Type} {R : α → α → Prop} {l : List α}
    (h : ∀ before a after, l = before ++ a :: after → before.Pairwise R →
      (∀ x ∈ before, ∀ y ∈ a :: after, R x y) → ∀ y ∈ after, R a y) :
    l.Pairwise R := by
  have haux : ∀ after before, l = before ++ after → before.Pairwise R →
      (∀ x ∈ before, ∀ y ∈ after, R x y) → l.Pairwise R := by
    intro after
    induction after with
    | nil =>
        intro before hl hbefore _
        rwa [hl, List.append_nil]
    | cons a after ih =>
        intro before hl hbefore hcross
        have ha := h before a after hl hbefore hcross
        refine ih (before ++ [a]) ?_ ?_ ?_
        · rw [hl, List.append_assoc, List.singleton_append]
        · refine List.pairwise_append.mpr
            ⟨hbefore, List.pairwise_singleton _ _, fun x hx y hy => ?_⟩
          obtain rfl := List.mem_singleton.mp hy
          exact hcross x hx y List.mem_cons_self
        · intro x hx y hy
          rcases List.mem_append.mp hx with hx | hx
          · exact hcross x hx y (List.mem_cons_of_mem _ hy)
          · obtain rfl := List.mem_singleton.mp hx
            exact ha y hy
  exact haux l [] rfl .nil fun _ hx => by cases hx

/-- A token that stands in a later one is replaced twice: for itself, and
there. -/
theorem twice_replace {s : List Char} {ps : List Piece} {before after :
    List String} {name later : String} {text : String → List Char}
    (htext : ∀ other ∈ before.reverse, '\x7b' ∉ text other)
    (hscan : Scan s ps)
    (hnames : ps.filterMap Piece.name? = before ++ name :: after)
    (hvalid : name ≠ "" ∧ '\x7d' ∉ name.toList) (hfresh : name ∉ before)
    (hlater : later ∈ after) (hnew : later ∉ before)
    (hinside : token name <:+: token later) :
    Twice (text name) (replace (token name) (text name)
      (ps.flatMap (renderedWith text before.reverse))) := by
  obtain ⟨front, rest, rfl, rfl, rfl⟩ := Document.exists_of_names_eq hnames
  have hbefore : ∀ other, .token other ∈ front →
      other ∈ (front.filterMap Piece.name?).reverse :=
    fun other hother =>
      List.mem_reverse.mpr (Document.mem_names_iff.mpr hother)
  -- the later token stands there still, and this one in it
  have hthere : token name <:+: rest.flatMap
      (renderedWith text (front.filterMap Piece.name?).reverse) := by
    obtain ⟨left, right, rfl⟩ :=
      List.append_of_mem (Document.mem_names_iff.mp hlater)
    rw [List.flatMap_append, List.flatMap_cons, renderedWith,
      if_neg (mt List.mem_reverse.mp hnew)]
    exact hinside.trans ⟨_, _, List.append_assoc _ _ _⟩
  rw [Engine.copies_front copies_replace htext hscan hvalid.1 hvalid.2
      fun other hother => Or.inl (hbefore other hother),
    List.flatMap_cons, renderedWith, if_neg (mt List.mem_reverse.mp hfresh),
    replace_append_self (Engine.token_ne_nil name)]
  obtain ⟨y, z, hyz⟩ :=
    infix_replace (Engine.token_ne_nil name) (text name) hthere
  refine ⟨_, y, z, congrArg (_ ++ ·) (congrArg (text name ++ ·) ?_)⟩
  rw [← hyz, List.append_assoc]

/-- The turn of a token. In the path it stands behind some that stand neither in
it nor in a later one. It is filled in behind these and in front of others, but
not a second time. -/
structure Turn (k : Tool) (before : List String) (name : String)
    (after others : List String) : Prop where
  tokens : (pathTokens k.path.toList).map String.ofList
    = before ++ name :: after
  pairwise : before.Pairwise fun a b => ¬ token a <:+: token b
  cross : ∀ a ∈ before, ∀ b ∈ name :: after, ¬ token a <:+: token b
  params : k.pathParams = before ++ name :: others
  once : name ∉ others

section Turns

variable {k : Tool} {before after others : List String} {name : String}
  {values : String → String}

theorem Turn.not_mem (h : Turn k before name after others) {later : String}
    (hlater : later ∈ name :: after) : later ∉ before :=
  fun hmem => h.cross later hmem later hlater (List.infix_refl _)

/-- When the turn of the token comes, those in front of it are filled in. -/
theorem Turn.url_eq (h : Turn k before name after others) (t : Target) :
    t.url values k = t.fillAll (fun name => (values name).toList) others
      (t.replacing (token name) (values name).toList
        (t.fillAll (fun name => (values name).toList) before
          k.path.toList)) := by
  rw [Generate.url_eq, h.params, fillAll_append, fillAll_cons]

/-- If all occurrences are replaced, a long argument of a token comes in for the
token itself and where it stands in a later one. -/
theorem Turn.twice (h : Turn k before name after others) {later : String}
    (hlater : later ∈ after) (hinside : token name <:+: token later)
    (hopen : ∀ other, '\x7b' ∉ (values other).toList)
    (hclose : '\x7d' ∉ (values name).toList)
    (hlong : ∀ other ∈ others,
      (token other).length ≤ (values name).toList.length) :
    Twice (values name).toList (Target.python.url values k) := by
  have hmem : name ∈ (pathTokens k.path.toList).map String.ofList :=
    h.tokens ▸ List.mem_append_right _ List.mem_cons_self
  rw [h.url_eq, fillAll_front _ (fun other _ => hopen other) h.tokens
    h.pairwise h.cross]
  exact twice_fillAll (hopen name) hclose hlong
    (twice_replace (fun other _ => hopen other) (Document.scan_pieces _)
      ((Document.names_pieces _).trans h.tokens) (valid_of_mem_pathTokens hmem)
      (h.not_mem List.mem_cons_self) hlater
      (h.not_mem (List.mem_cons_of_mem _ hlater)) hinside)

/-- If the first occurrence alone is replaced, it comes in once, and without the
other arguments nothing else does. -/
theorem Turn.length_le (h : Turn k before name after others)
    (hempty : ∀ other, other ≠ name → (values other).toList = []) :
    (Target.javascript.url values k).length
      ≤ k.path.toList.length + (values name).toList.length := by
  have hbefore := length_fillAll_le (s := k.path.toList)
    fun other (hother : other ∈ before) => hempty other
      fun heq => h.not_mem List.mem_cons_self (heq ▸ hother)
  have hothers : ∀ other ∈ others, (values other).toList = [] :=
    fun other hother => hempty other fun heq => h.once (heq ▸ hother)
  rw [h.url_eq]
  refine (length_fillAll_le hothers).trans ?_
  refine (length_replaceFirst_le (Engine.token_ne_nil name) _ _).trans ?_
  exact Nat.add_le_add_right hbefore _

end Turns

/-- Every token has its turn that stands in the path behind tokens of this
kind. -/
theorem exists_turn (h : d.catalog = .ok (endpoints, reports))
    (he : e ∈ endpoints) {before after : List String} {name : String}
    (htokens : (pathTokens e.path.toList).map String.ofList
      = before ++ name :: after)
    (hpair : before.Pairwise fun a b => ¬ token a <:+: token b)
    (hcross : ∀ a ∈ before, ∀ b ∈ name :: after, ¬ token a <:+: token b) :
    ∃ others, Turn (.ofEndpoint e) before name after others := by
  obtain ⟨declared, hparams, hdeclared⟩ := pathParams_ofEndpoint h he
  have hfresh : name ∉ before := fun hmem =>
    hcross name hmem name List.mem_cons_self (List.infix_refl _)
  have hdistinct : distinctTokens e.path = before
      ++ (firstOccurrences (name :: after)).filter fun a => a ∉ before := by
    rw [distinctTokens, htokens, firstOccurrences_append,
      firstOccurrences_of_nodup (nodup_of_pairwise hpair)]
  have hfirst : (firstOccurrences (name :: after)).filter (fun a => a ∉ before)
      = name :: ((firstOccurrences after).filter (· != name)).filter
        fun a => a ∉ before := by
    rw [firstOccurrences, List.filter_cons_of_pos (by simpa using hfresh)]
  have hmem : name ∈ distinctTokens e.path := by
    rw [hdistinct, hfirst]
    exact List.mem_append_right _ List.mem_cons_self
  refine ⟨((firstOccurrences after).filter (· != name)).filter
      (fun a => a ∉ before) ++ declared, htokens, hpair, hcross, ?_, ?_⟩
  · rw [hparams, hdistinct, hfirst, List.append_assoc, List.cons_append]
  · intro hother
    rcases List.mem_append.mp hother with hlater | hlater
    · have hne := (List.mem_filter.mp (List.mem_filter.mp hlater).1).2
      exact bne_iff_ne.mp hne rfl
    · exact (hdeclared name hlater).1 hmem

/-- There is a text of one letter that is longer than all of some others. -/
theorem exists_block (texts : List (List Char)) :
    ∃ block : List Char, (∀ c ∈ block, c = 'x')
      ∧ ∀ s ∈ texts, s.length < block.length := by
  refine ⟨List.replicate (texts.flatten.length + 1) 'x',
    fun c hc => List.eq_of_mem_replicate hc, fun s hs => ?_⟩
  rw [List.length_replicate]
  exact Nat.lt_succ_of_le (List.sublist_flatten_of_mem hs).length_le

/-- Arguments of which one name has this, and all others have the empty
text. -/
def solely (name : String) (block : List Char) (other : String) : String :=
  if other = name then String.ofList block else ""

theorem solely_self (name : String) (block : List Char) :
    (solely name block name).toList = block := by
  rw [solely, if_pos rfl, String.toList_ofList]

theorem solely_of_ne {name other : String} (block : List Char)
    (h : other ≠ name) : (solely name block other).toList = [] := by
  rw [solely, if_neg h]
  rfl

/-- Where both languages fill in the same for all arguments, the path is
clear. -/
theorem clear_of_substitutes (h : d.catalog = .ok (endpoints, reports))
    (he : e ∈ endpoints) (hsub : Substitutes e) : Clear e.path := by
  refine pairwise_of_forall_split
    fun before name after htokens hpair hcross later hlater hinside => ?_
  obtain ⟨others, hturn⟩ := exists_turn h he htokens hpair hcross
  -- a long argument for this token, and none for the others
  obtain ⟨block, hletter, hlong⟩ :=
    exists_block (e.path.toList :: others.map token)
  obtain ⟨hpath, hlong⟩ := List.forall_mem_cons.mp hlong
  have hself := solely_self name block
  have hletters : ∀ other, ∀ c ∈ (solely name block other).toList,
      c = 'x' := by
    intro other c hc
    by_cases heq : other = name
    · rw [heq, hself] at hc
      exact hletter c hc
    · rw [solely_of_ne block heq] at hc
      cases hc
  have hplain : ∀ other c, c ≠ 'x' → c ∉ (solely name block other).toList :=
    fun other c hc hmem => hc (hletters other c hmem)
  obtain ⟨hequal, -⟩ := hsub (solely name block) fun p _ c hc => by
    obtain rfl := hletters p.name c hc
    decide
  have htwice := hturn.twice hlater hinside
    (fun other => hplain other _ (by decide)) (hplain name _ (by decide))
    fun other hother => by
      rw [hself]
      exact (hlong _ (List.mem_map_of_mem hother)).le
  have honce := hturn.length_le fun other => solely_of_ne block
  have hlength := length_of_twice htwice
  rw [hself] at honce hlength
  rw [← hequal] at hlength
  have hpath : (Tool.ofEndpoint e).path.toList.length < block.length := hpath
  omega

/-- For every endpoint of a catalog, the lines that give its URL a value are the
same statements in both languages. If they make one URL of all harmless
arguments, without a token of the path in it, then no token of the path stands
in a later one; and if none does, they do, as long as no parameter has a closing
brace in its name. -/
theorem catalog_substitutes (h : d.catalog = .ok (endpoints, reports))
    (he : e ∈ endpoints) :
    (∀ t : Target, (t.handler (.ofEndpoint e)).filter t.assigns
        = (Tool.ofEndpoint e).urlStatements.map t.urlRow)
      ∧ (Substitutes e → Clear e.path)
      ∧ ((∀ p ∈ e.pathParams, '\x7d' ∉ p.name.toList) → Clear e.path →
        Substitutes e) :=
  ⟨fun t => filter_assigns_handler t _, clear_of_substitutes h he,
    substitutes_of_clear h he⟩

/-- A path with a token that stands in an earlier one, and with braces that
make none. -/
def nestedPath : String := "/\x7ba\x7bb\x7d\x7bb\x7d/\x7b\x7d/\x7bc"

/-- Both languages fill this path. -/
theorem catalog_substitutes_nested :
    ∃ e reports,
      (Engine.served "https://x.example" nestedPath).catalog
          = .ok ([e], reports)
        ∧ (∀ t : Target, (t.handler (.ofEndpoint e)).filter t.assigns
          = (Tool.ofEndpoint e).urlStatements.map t.urlRow)
        ∧ (∀ p ∈ e.pathParams, '\x7d' ∉ p.name.toList) ∧ Clear e.path
        ∧ Substitutes e
        ∧ ∀ t : Target, t.url (fun name => if name = "b" then "2" else "1")
            (.ofEndpoint e) = "/12/\x7b\x7d/\x7bc".toList := by
  have hrun : Engine.places (Engine.served "https://x.example" nestedPath)
      = some [(nestedPath, [Document.tokenParam "a\x7bb",
        Document.tokenParam "b"])] := by
    decide +kernel
  obtain ⟨e, reports, hcatalog, hpath, hparams⟩ :=
    Engine.exists_of_places hrun
  obtain ⟨hrows, -, hsub⟩ := catalog_substitutes hcatalog List.mem_cons_self
  have hplain : ∀ p ∈ e.pathParams, '\x7d' ∉ p.name.toList := by
    rw [hparams]
    decide
  have hclear : Clear e.path := by
    rw [hpath]
    decide +kernel
  refine ⟨e, reports, hcatalog, hrows, hplain, hclear, hsub hplain hclear,
    fun t => ?_⟩
  rw [url_eq]
  show t.fillAll _ (firstOccurrences (e.pathParams.map (·.name)))
    e.path.toList = _
  rw [hparams, hpath]
  cases t <;> decide +kernel

/-- Not every path is filled alike: of a token that comes twice one of the
languages fills the first place alone. -/
theorem not_forall_substitutes :
    ¬ ∀ (d : Document) endpoints reports,
      d.catalog = .ok (endpoints, reports) → ∀ e ∈ endpoints,
        Substitutes e := by
  intro hall
  have hrun : Engine.places
      (Engine.served "https://x.example" Engine.repeatedPath)
        = some [(Engine.repeatedPath, [Document.tokenParam "id",
          Document.tokenParam "name"])] := by
    decide +kernel
  obtain ⟨e, reports, hcatalog, hpath, hparams⟩ :=
    Engine.exists_of_places hrun
  obtain ⟨hequal, -⟩ := hall _ _ _ hcatalog e List.mem_cons_self
    (fun _ => "1") fun _ _ c hc => by
      obtain rfl := List.mem_singleton.mp hc
      decide
  rw [url_eq, url_eq] at hequal
  change Target.javascript.fillAll _
      (firstOccurrences (e.pathParams.map (·.name))) e.path.toList
    = Target.python.fillAll _
      (firstOccurrences (e.pathParams.map (·.name))) e.path.toList at hequal
  rw [hparams, hpath] at hequal
  revert hequal
  decide +kernel

end Toolsmith.Generate
