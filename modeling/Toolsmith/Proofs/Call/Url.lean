/-
The URL that a call asks for: the base URL and behind it the path with the text
of an argument for every token.

This is what comes out where the parameters keep apart. The engine looks for
them in the whole URL, so the base must have no place for one and no brace that
a closing one of the path could complete; and it looks for them one after the
other, so none may find a place inside the token of a later one.
-/
import Toolsmith.Proofs.Call.Execute
import Toolsmith.Proofs.Call.Filled
import Toolsmith.Proofs.Document.Parameters

namespace Toolsmith.Engine

open Document (pieces Piece Scan)
open Text

variable {given : List (Value × Value)} {base : List Char}

-- ================================================================= URL

/-- The parameters of a path keep apart from the base of a URL and from each
other. -/
structure Apart (base : List Char) (params : List Param) : Prop where
  /-- Every opening brace of the base has a closing one behind it. -/
  closed : Closed base
  /-- No parameter has a place in the base. -/
  base : ∀ p ∈ params, ¬ token p.name <:+: base
  /-- No closing brace is in a name. -/
  plain : ∀ p ∈ params, '\x7d' ∉ p.name.toList
  /-- No parameter has a place in the token of a later one. -/
  ordered : params.Pairwise fun p q =>
    p.name = q.name ∨ ¬ token p.name <:+: token q.name

instance (base : List Char) (params : List Param) :
    Decidable (Apart base params) :=
  decidable_of_iff (Closed base
      ∧ (∀ p ∈ params, ¬ token p.name <:+: base)
      ∧ (∀ p ∈ params, '\x7d' ∉ p.name.toList)
      ∧ params.Pairwise fun p q =>
          p.name = q.name ∨ ¬ token p.name <:+: token q.name)
    ⟨fun h => ⟨h.1, h.2.1, h.2.2.1, h.2.2.2⟩,
      fun h => ⟨h.closed, h.base, h.plain, h.ordered⟩⟩

/-- Braces in no place but around the tokens of a path keep everything
apart. -/
theorem apart_of_not_mem {params : List Param} (hbase : '\x7b' ∉ base)
    (hnames : ∀ p ∈ params, '\x7b' ∉ p.name.toList
      ∧ '\x7d' ∉ p.name.toList) : Apart base params where
  closed := closed_of_not_mem hbase
  base := fun _ _ h => hbase (h.subset List.mem_cons_self)
  plain := fun p hp => (hnames p hp).2
  ordered := by
    refine List.pairwise_of_forall_mem_list fun p hp q hq => ?_
    by_cases hin : token p.name <:+: token q.name
    · left
      obtain ⟨hopen, hclose⟩ := hnames q hq
      rcases List.infix_cons_iff.mp hin with hprefix | hbehind
      · obtain ⟨-, more, hmore⟩ := List.cons_prefix_cons.mp hprefix
        have hsplit : p.name.toList ++ '\x7d' :: more
            = q.name.toList ++ '\x7d' :: [] := by
          simpa using hmore
        exact String.toList_inj.mp
          (eq_of_append_closing (hnames p hp).2 hclose hsplit)
      · rcases List.mem_append.mp (hbehind.subset List.mem_cons_self)
          with hmem | hmem
        · exact absurd hmem hopen
        · exact absurd (List.mem_singleton.mp hmem) (by decide)
    · exact Or.inr hin

/-- At a parameter that has an argument with a text, the text is put into the
URL. -/
theorem place_eq_ok {p : Param} {url : List Char}
    (h : ∃ v, argument? p.name given = some v ∧ Placeable v) :
    place given p url
      = .ok (replace (token p.name) (tokenText given p.name) url, []) := by
  obtain ⟨v, hv, hplaceable⟩ := h
  obtain ⟨text, htext⟩ := placedText_ok.mpr hplaceable
  unfold place tokenText
  cases hcontains : contains (token p.name) url with
  | false =>
      rw [replace_of_not_contains hcontains]
      rfl
  | true =>
      rw [if_pos rfl, hv]
      dsimp only
      rw [Option.bind_some, htext]
      rfl

/-- Halfway through the parameters of a path: some of its tokens are filled,
and the parameters that are left keep apart and cover the others. -/
structure Halfway (base : List Char) (ps : List Piece) (done : List String)
    (params : List Param) : Prop where
  apart : Apart base params
  named : ∀ p ∈ params, p.name ≠ ""
  cover : ∀ name, .token name ∈ ps →
    name ∈ done ∨ ∃ p ∈ params, p.name = name

namespace Halfway

variable {s : List Char} {ps : List Piece} {done : List String} {p : Param}
  {rest : List Param}

/-- The first of the parameters leaves the others where they were. -/
theorem next (h : Halfway base ps done (p :: rest)) :
    Halfway base ps (p.name :: done) rest where
  apart := {
    closed := h.apart.closed
    base := (List.forall_mem_cons.mp h.apart.base).2
    plain := (List.forall_mem_cons.mp h.apart.plain).2
    ordered := (List.pairwise_cons.mp h.apart.ordered).2 }
  named := (List.forall_mem_cons.mp h.named).2
  cover := by
    intro name hname
    rcases h.cover name hname with hdone | ⟨q, hq, rfl⟩
    · exact Or.inl (List.mem_cons_of_mem _ hdone)
    · rcases List.mem_cons.mp hq with rfl | hq
      · exact Or.inl List.mem_cons_self
      · exact Or.inr ⟨q, hq, rfl⟩

/-- The first of the parameters has no place in a token that stands there
still, other than its own. -/
theorem later (h : Halfway base ps done (p :: rest)) :
    ∀ other, .token other ∈ ps → other ∈ done
      ∨ p.name = other ∨ ¬ token p.name <:+: token other := by
  intro other hother
  rcases h.cover other hother with hdone | ⟨q, hq, rfl⟩
  · exact Or.inl hdone
  · rcases List.mem_cons.mp hq with rfl | hq
    · exact Or.inr (Or.inl rfl)
    · exact Or.inr ((List.pairwise_cons.mp h.apart.ordered).1 q hq)

/-- Replacing the first of the parameters fills its tokens. -/
theorem replace_eq (h : Halfway base ps done (p :: rest))
    (hscan : Scan s ps) :
    replace (token p.name) (tokenText given p.name)
        (base ++ ps.flatMap (rendered given done))
      = base ++ ps.flatMap (rendered given (p.name :: done)) := by
  have hplain := h.apart.plain p List.mem_cons_self
  rw [replace_append_of_closed hplain h.apart.closed
      (h.apart.base p List.mem_cons_self),
    replace_rendered hscan (h.named p List.mem_cons_self) hplain h.later]

/-- The first of the parameters has a place exactly if a token of its name has
not been filled. -/
theorem contains_iff (h : Halfway base ps done (p :: rest))
    (hscan : Scan s ps) :
    contains (token p.name) (base ++ ps.flatMap (rendered given done)) = true
      ↔ .token p.name ∈ ps ∧ p.name ∉ done := by
  have hplain := h.apart.plain p List.mem_cons_self
  rw [contains_iff_isInfix, infix_append_of_closed hplain h.apart.closed
      (h.apart.base p List.mem_cons_self),
    infix_rendered_iff hscan (h.named p List.mem_cons_self) hplain h.later]

end Halfway

/-- Filling the parameters in a URL one after the other fills what is left of
the path. -/
theorem fill_rendered {s : List Char} {ps : List Piece} (hscan : Scan s ps)
    {params : List Param} (done : List String) (hapart : Apart base params)
    (hnamed : ∀ p ∈ params, p.name ≠ "")
    (hgiven : ∀ p ∈ params, ∃ v, argument? p.name given = some v
      ∧ Placeable v)
    (hcover : ∀ name, .token name ∈ ps →
      name ∈ done ∨ ∃ p ∈ params, p.name = name) :
    fill given params (base ++ ps.flatMap (rendered given done))
      = .ok (base ++ ps.flatMap (filled given), []) := by
  induction params generalizing done with
  | nil =>
      rw [rendered_of_forall fun name hname => ?_]
      · rfl
      · rcases hcover name hname with hdone | ⟨_, hp, _⟩
        · exact hdone
        · cases hp
  | cons p rest ih =>
      have hhalf : Halfway base ps done (p :: rest) :=
        ⟨hapart, hnamed, hcover⟩
      obtain ⟨hapartRest, hnamedRest, hcoverRest⟩ := hhalf.next
      obtain ⟨hgivenHere, hgivenRest⟩ := List.forall_mem_cons.mp hgiven
      have hrest := ih (p.name :: done) hapartRest hnamedRest hgivenRest
        hcoverRest
      rw [fill_cons, place_eq_ok hgivenHere, hhalf.replace_eq hscan]
      show (fill given rest _).map _ = _
      rw [hrest]
      rfl

/-- The tokens of an endpoint of a catalog are among the parameters of its
path, and all of these have names. -/
theorem pathParams_of_mem_catalog {d : Document} {endpoints : List Endpoint}
    {reports : List Log.Entry} (h : d.catalog = .ok (endpoints, reports))
    {e : Endpoint} (he : e ∈ endpoints) :
    (∀ name, .token name ∈ pieces e.path.toList →
        ∃ p ∈ e.pathParams, p.name = name)
      ∧ ∀ p ∈ e.pathParams, p.name ≠ "" := by
  obtain ⟨further, hparams, hfurther⟩ :=
    Document.parameters_of_mem_catalog h he
  refine ⟨fun name hname => ?_, fun p hp => ?_⟩
  · have htoken : name ∈ Document.distinctTokens e.path :=
      Document.mem_distinctTokens.mpr (Document.token_mem_pieces.mp hname)
    refine ⟨Document.tokenParam name, List.mem_filter.mpr ⟨?_, rfl⟩, rfl⟩
    rw [hparams]
    exact List.mem_append_left _ (List.mem_map_of_mem htoken)
  · have hmem := (List.mem_filter.mp hp).1
    rw [hparams] at hmem
    rcases List.mem_append.mp hmem with htoken | hlater
    · obtain ⟨name, hname, rfl⟩ := List.mem_map.mp htoken
      exact Document.ne_empty_of_scan (Document.scan_pieces _)
        (Document.token_mem_pieces.mpr
          (Document.mem_distinctTokens.mp hname))
    · exact hfurther p hlater

-- =============================================================== calls

/-- A plan that is made is for the URL of the call, whether it is settled or
asks for an answer. -/
theorem url_of_plan {engine : Engine} {e : Endpoint} {arguments : Value}
    {url : List Char} {missing : List String}
    (hurl : engine.url e (argumentsOf arguments) = .ok (url, missing))
    {made : Plan} (h : engine.plan e arguments = .ok made) :
    (∃ o, made = .settled o ∧ o.url = some (String.ofList url))
      ∨ ∃ request, made = .send request
          ∧ request.url = String.ofList url := by
  cases planned_of_plan h with
  | incomplete hmade =>
      cases hurl.symm.trans hmade
      exact Or.inl ⟨_, rfl, rfl⟩
  | unwritable hmade _ _ _ =>
      cases hurl.symm.trans hmade
      exact Or.inl ⟨_, rfl, rfl⟩
  | request hmade _ _ _ =>
      cases hurl.symm.trans hmade
      exact Or.inr ⟨_, rfl, rfl⟩

/-- The outcome of a request has the URL of the request. -/
theorem url_of_settle {e : Endpoint} {r : Request}
    {answer : Except Trouble Response} {o : Outcome}
    (h : settle e r answer = .ok o) : o.url = some r.url := by
  cases answer with
  | error trouble =>
      cases h
      rfl
  | ok response =>
      obtain ⟨_, -, h⟩ := Steps.bind_eq_ok.mp h
      cases h
      rfl

/-- A call of an endpoint of a catalog, with arguments that have texts for all
parameters of the path, where these keep apart. The URL is the base URL without
slashes at its end, and behind it the path with all of its tokens filled at
once. If the call is planned, it is a request there, except for a content that
JSON cannot hold; and every outcome names this URL. What is filled in is plain
characters and percent signs. -/
theorem execute_url {d : Document} {endpoints : List Endpoint}
    {reports : List Log.Entry} (h : d.catalog = .ok (endpoints, reports))
    {e : Endpoint} (he : e ∈ endpoints) (engine : Engine)
    (hgiven : ∀ p ∈ e.pathParams, ∃ v, argument? p.name given = some v
      ∧ Placeable v)
    (hapart : Apart (dropTrailing '/' engine.baseUrl.toList) e.pathParams) :
    let url := dropTrailing '/' engine.baseUrl.toList
      ++ filledPath given e.path.toList
    engine.url e given = .ok (url, [])
      ∧ (∀ made, engine.plan e (.map given) = .ok made →
          (∃ request, made = .send request
            ∧ request.url = String.ofList url)
          ∨ ∃ fault, content (String.ofList (upper e.method.toList)) given
            = .error fault)
      ∧ (∀ (send : Request → Except Trouble Response) o,
          engine.execute (m := Id) send e (.map given) = .ok o →
          o.url = some (String.ofList url))
      ∧ ∀ p ∈ e.pathParams, ∀ c ∈ tokenText given p.name,
          Percent.isPlain c = true ∨ c = '%' := by
  intro url
  have hscan := Document.scan_pieces e.path.toList
  obtain ⟨hcover, hnamed⟩ := pathParams_of_mem_catalog h he
  have hurl : engine.url e given = .ok (url, []) := by
    have hfill := fill_rendered hscan [] hapart hnamed hgiven
      fun name hname => Or.inr (hcover name hname)
    rwa [rendered_nil hscan] at hfill
  refine ⟨hurl, fun made hplan => ?_, fun send o hrun => ?_,
    fun p _ => isPlain_of_mem_tokenText⟩
  · cases planned_of_plan hplan with
    | incomplete hmade => cases hurl.symm.trans hmade
    | unwritable _ _ _ hcontent => exact Or.inr ⟨_, hcontent⟩
    | request hmade _ _ _ =>
        cases hurl.symm.trans hmade
        exact Or.inl ⟨_, rfl, rfl⟩
  · unfold execute at hrun
    cases hplan : engine.plan e (.map given) with
    | error failure =>
        rw [hplan] at hrun
        cases hrun
    | ok made =>
        rw [hplan] at hrun
        rcases url_of_plan hurl hplan with ⟨o', rfl, hto⟩
          | ⟨request, rfl, hto⟩
        · cases hrun
          exact hto
        · rw [← hto]
          exact url_of_settle hrun

/-- A document with one operation at a path, and the base URL of its
server. -/
def served (url path : String) : Document :=
  let entries : List (Value × Value) :=
    [(.text "info", .ofFields [("title", .text "T")]),
     (.text "servers", .list [.ofFields [("url", .text url)]]),
     (.text "paths", .ofFields
      [(path, .ofFields
        [("get", .ofFields [("operationId", .text "a")])])])]
  ⟨.ofValue (.map entries), entries⟩

/-- A text without lone surrogates is an argument for a path. -/
theorem placeable_text {s : String} (h : LoneFree s.toList) :
    Placeable (.text s) :=
  ⟨rfl, fun _ heq => Value.text.inj heq ▸ h⟩

/-- What is read off the one endpoint of a document. -/
theorem exists_of_catalog_map {α : Type} {d : Document} {f : Endpoint → α}
    {x : α}
    (h : (d.catalog.toOption.map fun made => made.1.map f) = some [x]) :
    ∃ e reports, d.catalog = .ok ([e], reports) ∧ f e = x := by
  cases hcatalog : d.catalog with
  | error failure =>
      rw [hcatalog] at h
      cases h
  | ok made =>
      rw [hcatalog] at h
      obtain ⟨e, hsingle, hx⟩ :=
        List.map_eq_singleton_iff.mp (Option.some.inj h)
      refine ⟨e, made.2, ?_, hx⟩
      rw [← hsingle]

/-- The path of this document and the parameters in it. -/
def places (d : Document) : Option (List (String × List Param)) :=
  d.catalog.toOption.map fun made =>
    made.1.map fun e => (e.path, e.pathParams)

/-- A document with one place has one endpoint there. -/
theorem exists_of_places {d : Document} {path : String} {params : List Param}
    (h : places d = some [(path, params)]) :
    ∃ e reports, d.catalog = .ok ([e], reports)
      ∧ e.path = path ∧ e.pathParams = params := by
  obtain ⟨e, reports, hcatalog, hpair⟩ := exists_of_catalog_map h
  obtain ⟨hpath, hparams⟩ := Prod.mk.inj hpair
  exact ⟨e, reports, hcatalog, hpath, hparams⟩

/-- A base URL with a place in it, which is none of a parameter. -/
def zonedUrl : String := "https://\x7bzone\x7d.example/v1//"

/-- A path with one token twice. -/
def repeatedPath : String := "/\x7bid\x7d/\x7bname\x7d/\x7bid\x7d"

/-- Arguments for this path, one of which looks like a token. -/
def tokenLike : List (Value × Value) :=
  [(.text "id", .text "a/\x7bname\x7d"), (.text "name", .bool true)]

/-- The URL for this path has the base as it is, and what looks like a token as
an argument. -/
theorem execute_url_zoned :
    ∃ e reports, (served zonedUrl repeatedPath).catalog = .ok ([e], reports)
      ∧ Engine.url ⟨zonedUrl, none⟩ e tokenLike
        = .ok (("https://\x7bzone\x7d.example/v1"
          ++ "/a%2F%7Bname%7D/true/a%2F%7Bname%7D").toList, []) := by
  have hrun : places (served zonedUrl repeatedPath) = some [(repeatedPath,
      [Document.tokenParam "id", Document.tokenParam "name"])] := by
    decide +kernel
  obtain ⟨e, reports, hcatalog, hpath, hparams⟩ := exists_of_places hrun
  have hgiven : ∀ p ∈ e.pathParams, ∃ v,
      argument? p.name tokenLike = some v ∧ Placeable v := by
    rw [hparams]
    refine List.forall_mem_cons.mpr ⟨⟨_, rfl, ?_⟩,
      List.forall_mem_singleton.mpr ⟨_, rfl, ?_⟩⟩
    · exact placeable_text (by decide)
    · exact ⟨rfl, fun _ h => (by cases h)⟩
  have hapart : Apart (dropTrailing '/' zonedUrl.toList) e.pathParams := by
    rw [hparams]
    decide +kernel
  obtain ⟨hurl, -⟩ := execute_url hcatalog List.mem_cons_self
    ⟨zonedUrl, none⟩ hgiven hapart
  have hfilled : dropTrailing '/' zonedUrl.toList
        ++ filledPath tokenLike e.path.toList
      = ("https://\x7bzone\x7d.example/v1"
        ++ "/a%2F%7Bname%7D/true/a%2F%7Bname%7D").toList := by
    rw [hpath]
    decide +kernel
  refine ⟨e, reports, hcatalog, ?_⟩
  rw [← hfilled]
  exact hurl

/-- Filling all tokens of the path at once is not what every call does: a base
URL can hold the token of a parameter, and an argument becomes its host. -/
theorem not_forall_url :
    ¬ ∀ (d : Document) endpoints reports,
      d.catalog = .ok (endpoints, reports) → ∀ e ∈ endpoints,
      ∀ (engine : Engine) (given : List (Value × Value)),
        (∀ p ∈ e.pathParams, ∃ v, argument? p.name given = some v
          ∧ Placeable v) →
        engine.url e given = .ok (dropTrailing '/' engine.baseUrl.toList
          ++ filledPath given e.path.toList, []) := by
  intro hall
  have hrun : places (served "https://\x7bid\x7d.example" "/\x7bid\x7d")
      = some [("/\x7bid\x7d", [Document.tokenParam "id"])] := by
    decide +kernel
  obtain ⟨e, reports, hcatalog, hpath, hparams⟩ := exists_of_places hrun
  have hgiven : ∀ p ∈ e.pathParams, ∃ v,
      argument? p.name [(.text "id", .text "evil")] = some v
        ∧ Placeable v := by
    rw [hparams]
    exact List.forall_mem_singleton.mpr
      ⟨_, rfl, placeable_text (by decide)⟩
  have hurl := hall _ _ reports hcatalog e List.mem_cons_self
    ⟨"https://\x7bid\x7d.example", none⟩ _ hgiven
  unfold Engine.url at hurl
  rw [hparams, hpath] at hurl
  have hfilled := congrArg Except.toOption hurl
  revert hfilled
  decide +kernel

end Toolsmith.Engine
