/-
How a call ends, and what its outcome says about that. A call that has an
outcome ends in one of three ways: an argument of the path is missing and
nothing is sent; nothing comes back, for the content or the sending failed; or
one request was sent and a response arrived. The outcome tells them apart.

Requests are counted where they are sent: in `recorded`, the world in which a
call runs keeps a list of what went out and what came back. The world answers
as it likes, and an answer may depend on everything before it.

An argument is missing for a parameter that has a place in the URL as it is
when its turn comes. In front of it others have been filled, and this may take
its place away. Where the parameters keep apart it cannot, and the tokens of
the path decide.
-/
import Toolsmith.Proofs.Call.Url

namespace Toolsmith

open Text

-- ============================================================ responses

/-- A response says a value: that of its body as JSON, or the text of the body
where that is no JSON. -/
inductive Response.Says (r : Response) : Value → Prop where
  | json {v : Value} (h : r.json? = some (.ok v)) : Says r v
  | text {s : List Char} (hother : ∀ v, r.json? ≠ some (.ok v))
      (h : r.text = .ok s) : Says r (.text (String.ofList s))

/-- The data of a response are what it says. -/
theorem Response.says_of_data {r : Response} {v : Value}
    (h : r.data = .ok v) : r.Says v := by
  unfold Response.data at h
  split at h
  next hjson =>
    cases h
    exact .json hjson
  next => cases h
  next hother _ =>
    split at h
    next htext =>
      cases h
      exact .text hother htext
    next => cases h

/-- A status of success is one from 200 to 299. -/
theorem Response.isSuccess_range (r : Response) :
    r.isSuccess = true ↔ 200 ≤ r.status ∧ r.status ≤ 299 := by
  rw [Response.isSuccess, Bool.and_eq_true, decide_eq_true_iff,
    decide_eq_true_iff]
  omega

/-- The text of a trouble is not empty, as long as its kind has a name. -/
theorem Trouble.text_ne_empty {t : Trouble} (h : t.name ≠ "") :
    t.text ≠ "" := by
  unfold Trouble.text
  split
  · exact h
  next hmessage => exact fun heq => hmessage (beq_iff_eq.mpr heq)

/-- Every fault of writing JSON has a wording. -/
theorem Json.WriteFault.message_ne_empty (fault : Json.WriteFault) :
    fault.message ≠ "" := by
  have hfront : ∀ {front more : String}, front ≠ "" → front ++ more ≠ "" :=
    fun hne heq => hne (String.append_eq_empty_iff.mp heq).1
  cases fault with
  | value kind => exact hfront (hfront (by decide))
  | key kind => exact hfront (by decide)
  | lone run => exact hfront (by decide)
  | circular => decide
  | width => decide
  | depth => decide

namespace Engine

open Document (pieces Piece Scan)

variable {given : List (Value × Value)} {base : List Char}

-- ==================================================== missing arguments

/-- What filling leaves behind at one parameter. Either this has a place and no
argument, and is missing; or its text is put in all of its places, if it has
any. -/
theorem place_cases {p : Param} {url : List Char}
    {made : List Char × List String} (h : place given p url = .ok made) :
    (contains (token p.name) url = true ∧ argument? p.name given = none
        ∧ made = (url, [p.name]))
      ∨ (contains (token p.name) url = true →
          ∃ v, argument? p.name given = some v)
        ∧ made = (replace (token p.name) (tokenText given p.name) url, [])
    := by
  unfold place at h
  cases hplace : contains (token p.name) url with
  | false =>
      rw [hplace] at h
      cases h
      refine Or.inr ⟨fun h => (by cases h), ?_⟩
      rw [replace_of_not_contains hplace]
  | true =>
      rw [hplace, if_pos rfl] at h
      cases hgiven : argument? p.name given with
      | none =>
          rw [hgiven] at h
          cases h
          exact Or.inl ⟨rfl, rfl, rfl⟩
      | some v =>
          rw [hgiven] at h
          obtain ⟨text, htext, rfl⟩ := Steps.map_eq_ok.mp h
          refine Or.inr ⟨fun _ => ⟨v, rfl⟩, ?_⟩
          rw [tokenText, hgiven, Option.bind_some, htext]
          rfl

/-- A parameter lacks its argument in a URL: it has a place there once the
parameters in front of it are filled. -/
def LacksIn (given : List (Value × Value)) (params : List Param)
    (url : List Char) (name : String) : Prop :=
  ∃ before p after filled missing,
    params = before ++ p :: after ∧ p.name = name
      ∧ fill given before url = .ok (filled, missing)
      ∧ contains (token name) filled = true
      ∧ argument? name given = none

/-- The names that filling misses are those of the parameters that lack their
arguments. -/
theorem mem_missing_iff {params : List Param} {url filled : List Char}
    {missing : List String}
    (h : fill given params url = .ok (filled, missing)) (name : String) :
    name ∈ missing ↔ LacksIn given params url name := by
  induction params generalizing url filled missing with
  | nil =>
      cases h
      refine ⟨fun h => (by cases h), ?_⟩
      rintro ⟨before, p, after, -, -, hsplit, -⟩
      exact absurd hsplit (by simp)
  | cons q rest ih =>
      rw [fill_cons] at h
      obtain ⟨made, hmade, h⟩ := Steps.bind_eq_ok.mp h
      obtain ⟨more, hmore, hpair⟩ := Steps.map_eq_ok.mp h
      obtain ⟨rfl, rfl⟩ := Prod.mk.inj hpair
      have hhere : name ∈ made.2 ↔ q.name = name
          ∧ contains (token name) url = true
          ∧ argument? name given = none := by
        rcases place_cases hmade with ⟨hplace, hnone, rfl⟩ | ⟨hsome, rfl⟩
        · rw [List.mem_singleton]
          refine ⟨?_, fun h => h.1.symm⟩
          rintro rfl
          exact ⟨rfl, hplace, hnone⟩
        · refine ⟨fun h => (by cases h), ?_⟩
          rintro ⟨rfl, hplace, hnone⟩
          obtain ⟨v, hv⟩ := hsome hplace
          rw [hnone] at hv
          cases hv
      rw [List.mem_append, hhere, ih hmore]
      constructor
      · rintro (⟨hname, hbad⟩
          | ⟨before, p, after, filled, missing, rfl, hname, hfill, hbad⟩)
        · exact ⟨[], q, rest, url, [], rfl, hname, rfl, hbad⟩
        · refine ⟨q :: before, p, after, filled, made.2 ++ missing, rfl,
            hname, ?_, hbad⟩
          rw [fill_cons]
          exact Steps.bind_eq_ok.mpr ⟨made, hmade, Steps.map_eq_ok.mpr
            ⟨(filled, missing), hfill, rfl⟩⟩
      · rintro ⟨before, p, after, filled, missing, hsplit, hname, hfill,
          hbad⟩
        cases before with
        | nil =>
            cases hsplit
            cases hfill
            exact Or.inl ⟨hname, hbad⟩
        | cons q' before =>
            cases hsplit
            rw [fill_cons] at hfill
            obtain ⟨made', hmade', hfill⟩ := Steps.bind_eq_ok.mp hfill
            cases hmade.symm.trans hmade'
            obtain ⟨part, hpart, hpair⟩ := Steps.map_eq_ok.mp hfill
            cases hpair
            exact Or.inr ⟨before, p, after, part.1, part.2, rfl, hname,
              hpart, hbad⟩

/-- Halfway through a path nothing is missing exactly if the tokens that are
not filled yet have arguments. -/
theorem missing_eq_nil_iff {s : List Char} {ps : List Piece}
    (hscan : Scan s ps) {params : List Param} {done : List String}
    (hhalf : Halfway base ps done params) {filled : List Char}
    {missing : List String}
    (h : fill given params (base ++ ps.flatMap (rendered given done))
      = .ok (filled, missing)) :
    missing = [] ↔ ∀ name, .token name ∈ ps → name ∉ done →
      ∃ v, argument? name given = some v := by
  induction params generalizing done filled missing with
  | nil =>
      cases h
      refine ⟨fun _ name hname hdone => ?_, fun _ => rfl⟩
      rcases hhalf.cover name hname with hyes | ⟨_, hp, _⟩
      · exact absurd hyes hdone
      · cases hp
  | cons p rest ih =>
      rw [fill_cons] at h
      obtain ⟨made, hmade, h⟩ := Steps.bind_eq_ok.mp h
      obtain ⟨more, hmore, hpair⟩ := Steps.map_eq_ok.mp h
      obtain ⟨rfl, rfl⟩ := Prod.mk.inj hpair
      rcases place_cases hmade with ⟨hplace, hnone, rfl⟩ | ⟨hsome, rfl⟩
      · obtain ⟨hname, hdone⟩ := (hhalf.contains_iff hscan).mp hplace
        refine ⟨fun h => (by cases h), fun hall => ?_⟩
        obtain ⟨v, hv⟩ := hall p.name hname hdone
        rw [hnone] at hv
        cases hv
      · rw [hhalf.replace_eq hscan] at hmore
        rw [List.nil_append, ih hhalf.next hmore]
        refine forall_congr' fun name => forall_congr' fun hname =>
          ⟨fun hrest hdone => ?_, fun hall hdone => hall ?_⟩
        · by_cases heq : name = p.name
          · subst heq
            exact hsome ((hhalf.contains_iff hscan).mpr ⟨hname, hdone⟩)
          · exact hrest fun hmem =>
              (List.mem_cons.mp hmem).elim heq hdone
        · exact fun hmem => hdone (List.mem_cons_of_mem _ hmem)

/-- A parameter of the path lacks its argument in a call. -/
def Lacks (engine : Engine) (e : Endpoint) (arguments : Value)
    (name : String) : Prop :=
  LacksIn (argumentsOf arguments) e.pathParams
    (dropTrailing '/' engine.baseUrl.toList ++ e.path.toList) name

/-- Where the parameters of an endpoint of a catalog keep apart, one of them
lacks its argument exactly if a token of the path has none. -/
theorem exists_lacks_iff {d : Document} {endpoints : List Endpoint}
    {reports : List Log.Entry} (h : d.catalog = .ok (endpoints, reports))
    {e : Endpoint} (he : e ∈ endpoints) {engine : Engine}
    (hapart : Apart (dropTrailing '/' engine.baseUrl.toList) e.pathParams)
    {arguments : Value} {url : List Char} {missing : List String}
    (hurl : engine.url e (argumentsOf arguments) = .ok (url, missing)) :
    (∃ name, engine.Lacks e arguments name)
      ↔ ∃ name ∈ Document.distinctTokens e.path,
          argument? name (argumentsOf arguments) = none := by
  have hscan := Document.scan_pieces e.path.toList
  obtain ⟨hcover, hnamed⟩ := pathParams_of_mem_catalog h he
  have hhalf : Halfway (dropTrailing '/' engine.baseUrl.toList)
      (pieces e.path.toList) [] e.pathParams :=
    ⟨hapart, hnamed, fun name hname => Or.inr (hcover name hname)⟩
  have hsome : (∃ name, engine.Lacks e arguments name) ↔ missing ≠ [] := by
    rw [← List.isEmpty_eq_false_iff, List.isEmpty_eq_false_iff_exists_mem]
    exact exists_congr fun name => (mem_missing_iff hurl name).symm
  have hfill : fill (argumentsOf arguments) e.pathParams
      (dropTrailing '/' engine.baseUrl.toList
        ++ (pieces e.path.toList).flatMap
          (rendered (argumentsOf arguments) [])) = .ok (url, missing) := by
    rwa [rendered_nil hscan]
  rw [hsome, ne_eq, missing_eq_nil_iff hscan hhalf hfill]
  push Not
  refine exists_congr fun name => ?_
  rw [Document.mem_distinctTokens, ← Document.token_mem_pieces]
  refine and_congr_right fun _ => ?_
  cases argument? name (argumentsOf arguments) with
  | none => simp
  | some v => simp

-- ============================================================== endings

/-- A request and what came of it. -/
abbrev Exchange := Request × Except Trouble Response

/-- Sending in a world that keeps a list of what was sent. -/
def recorded {σ : Type} (send : Request → StateM σ (Except Trouble Response))
    (request : Request) :
    StateM (σ × List Exchange) (Except Trouble Response) := do
  let (world, sent) ← get
  let (answer, after) := (send request).run world
  set (after, sent ++ [(request, answer)])
  return answer

/-- The outcome knows of no response. -/
structure Silent (o : Outcome) : Prop where
  success : o.success = false
  data : o.data = .null
  status : o.statusCode = none

/-- The outcome is about a request. -/
structure About (request : Request) (o : Outcome) : Prop where
  method : request.method = o.method
  url : o.url = some request.url

/-- The outcome reports a response. -/
structure Reports (r : Response) (o : Outcome) : Prop where
  status : o.statusCode = some r.status
  success_iff : o.success = true ↔ 200 ≤ r.status ∧ r.status ≤ 299
  error_iff : o.error = none ↔ o.success = true
  error : o.success = false →
    o.error = some s!"HTTP {r.status}: {Response.reason r.status}"
  data : r.Says o.data

/-- Parameters lack their arguments; the error names these, and nothing was
sent. -/
structure Incomplete (engine : Engine) (e : Endpoint) (arguments : Value)
    (sent : List Exchange) (o : Outcome) : Prop where
  silent : Silent o
  sent : sent = []
  lacking : ∃ names, names ≠ [] ∧ o.error = some (missingMessage names)
    ∧ ∀ name, name ∈ names ↔ engine.Lacks e arguments name

/-- There is no response: the content has no JSON, and nothing was sent, or the
one request that was sent came to nothing. -/
structure Failed (engine : Engine) (e : Endpoint) (arguments : Value)
    (sent : List Exchange) (o : Outcome) : Prop where
  silent : Silent o
  complete : ∀ name, ¬ engine.Lacks e arguments name
  sent : (sent = [] ∧ ∃ fault,
        content o.method (argumentsOf arguments) = .error fault
          ∧ o.error = some fault.message)
      ∨ ∃ request trouble, sent = [(request, .error trouble)]
          ∧ About request o ∧ o.error = some trouble.text
  error : ∃ text, o.error = some text ∧ text ≠ ""

/-- One request was sent and a response arrived, which the outcome reports. -/
structure Answered (engine : Engine) (e : Endpoint) (arguments : Value)
    (sent : List Exchange) (o : Outcome) : Prop where
  complete : ∀ name, ¬ engine.Lacks e arguments name
  sent : ∃ request response, sent = [(request, .ok response)]
    ∧ About request o ∧ Reports response o

/-- How a call can end. -/
inductive Ending where
  | incomplete
  | failed
  | answered
  deriving DecidableEq, Repr

/-- A call ended this way, by what was sent and by its outcome. -/
def Ending.Fits (engine : Engine) (e : Endpoint) (arguments : Value)
    (sent : List Exchange) (o : Outcome) : Ending → Prop
  | incomplete => Incomplete engine e arguments sent o
  | failed => Failed engine e arguments sent o
  | answered => Answered engine e arguments sent o

variable {engine : Engine} {e : Endpoint} {arguments : Value}
  {sent : List Exchange} {o : Outcome}

/-- What lacks an argument tells the first ending from the others. -/
theorem Incomplete.not_complete
    (h : Incomplete engine e arguments sent o) :
    ¬ ∀ name, ¬ engine.Lacks e arguments name := by
  obtain ⟨names, hne, -, hnames⟩ := h.lacking
  obtain ⟨name, hname⟩ := List.exists_mem_of_ne_nil names hne
  exact fun hnone => hnone name ((hnames name).mp hname)

/-- What was sent tells the second from the third. -/
theorem Failed.not_answered (h : Failed engine e arguments sent o) :
    ¬ Answered engine e arguments sent o := by
  intro hanswered
  obtain ⟨_, _, rfl, -⟩ := hanswered.sent
  rcases h.sent with ⟨hnone, -⟩ | ⟨_, _, hother, -⟩
  · cases hnone
  · cases hother

/-- A call ends in one way only. -/
theorem Ending.eq_of_fits {a b : Ending}
    (ha : a.Fits engine e arguments sent o)
    (hb : b.Fits engine e arguments sent o) : a = b := by
  cases a with
  | incomplete =>
      cases b with
      | incomplete => rfl
      | failed => exact absurd hb.complete ha.not_complete
      | answered => exact absurd hb.complete ha.not_complete
  | failed =>
      cases b with
      | incomplete => exact absurd ha.complete hb.not_complete
      | failed => rfl
      | answered => exact absurd hb ha.not_answered
  | answered =>
      cases b with
      | incomplete => exact absurd ha.complete hb.not_complete
      | failed => exact absurd ha hb.not_answered
      | answered => rfl

-- =============================================================== calls

/-- A call that settled before anything was sent ended for want of an argument
or of a content. -/
theorem fits_of_settled (h : engine.plan e arguments = .ok (.settled o)) :
    ∃ ending : Ending, ending.Fits engine e arguments [] o := by
  cases planned_of_plan h with
  | incomplete hurl =>
      exact ⟨.incomplete, ⟨rfl, rfl, rfl⟩, rfl, _, List.cons_ne_nil _ _, rfl,
        mem_missing_iff hurl⟩
  | unwritable hurl _ _ hcontent =>
      refine ⟨.failed, ⟨rfl, rfl, rfl⟩, fun name hlacks => ?_,
        Or.inl ⟨rfl, _, hcontent, rfl⟩, _, rfl,
        Json.WriteFault.message_ne_empty _⟩
      exact List.not_mem_nil ((mem_missing_iff hurl name).mpr hlacks)

/-- The outcome of a response reports it. -/
theorem reports_of_settle {request : Request} {response : Response}
    (h : settle e request (.ok response) = .ok o) :
    About request o ∧ Reports response o := by
  obtain ⟨data, hdata, hmade⟩ := Steps.bind_eq_ok.mp h
  cases hmade
  refine ⟨⟨rfl, rfl⟩, rfl, response.isSuccess_range,
    (isSuccess_iff response).symm, fun hfails => ?_,
    Response.says_of_data hdata⟩
  show response.error? = _
  rw [Response.error?, if_neg (Bool.eq_false_iff.mp hfails)]

/-- A call that sent its request ended with what came of it. -/
theorem fits_of_settle {request : Request}
    (hplan : engine.plan e arguments = .ok (.send request))
    {answer : Except Trouble Response}
    (hnamed : ∀ trouble, answer = .error trouble → trouble.name ≠ "")
    (h : settle e request answer = .ok o) :
    ∃ ending : Ending,
      ending.Fits engine e arguments [(request, answer)] o := by
  have hcomplete : ∀ name, ¬ engine.Lacks e arguments name := by
    cases planned_of_plan hplan with
    | request hurl _ _ _ =>
        exact fun name hlacks =>
          List.not_mem_nil ((mem_missing_iff hurl name).mpr hlacks)
  cases answer with
  | error trouble =>
      cases h
      exact ⟨.failed, ⟨rfl, rfl, rfl⟩, hcomplete,
        Or.inr ⟨request, trouble, rfl, ⟨rfl, rfl⟩, rfl⟩, _, rfl,
        Trouble.text_ne_empty (hnamed trouble rfl)⟩
  | ok response =>
      exact ⟨.answered, hcomplete, request, response, rfl,
        reports_of_settle h⟩

/-- The outcome of a request is about the endpoint and has the method of the
request. -/
theorem names_of_settle {request : Request}
    {answer : Except Trouble Response}
    (h : settle e request answer = .ok o) :
    o.endpoint = e.name ∧ o.method = request.method := by
  cases answer with
  | error trouble =>
      cases h
      exact ⟨rfl, rfl⟩
  | ok response =>
      obtain ⟨_, -, hmade⟩ := Steps.bind_eq_ok.mp h
      cases hmade
      exact ⟨rfl, rfl⟩

/-- What a call that has an outcome went through: it was settled and nothing
was sent, or its one request was sent and the answer to that settled it. -/
theorem cases_of_execute {σ : Type}
    {send : Request → StateM σ (Except Trouble Response)} {world after : σ}
    (h : (engine.execute (recorded send) e arguments).run (world, [])
      = (.ok o, after, sent)) :
    (engine.plan e arguments = .ok (.settled o) ∧ sent = [])
      ∨ ∃ request answer,
          engine.plan e arguments = .ok (.send request)
            ∧ ((send request).run world).1 = answer
            ∧ settle e request answer = .ok o
            ∧ sent = [(request, answer)] := by
  unfold execute at h
  cases hplan : engine.plan e arguments with
  | error failure =>
      rw [hplan] at h
      cases h
  | ok made =>
      rw [hplan] at h
      cases made with
      | settled o' =>
          cases h
          exact Or.inl ⟨rfl, rfl⟩
      | send request =>
          obtain ⟨houtcome, hworld⟩ := Prod.mk.inj h
          obtain ⟨-, hsent⟩ := Prod.mk.inj hworld
          exact Or.inr ⟨request, _, rfl, rfl, houtcome, hsent.symm⟩

/-- Every call that has an outcome ended in one way, and the outcome tells the
truth about it: whether an argument of the path was missing, what was sent, and
what came back. It is about the endpoint and its method. Where the parameters
of an endpoint of a catalog keep apart, an argument is missing exactly if a
token of the path has none. Troubles are taken to have names for their
kinds. -/
theorem execute_ending {σ : Type}
    (send : Request → StateM σ (Except Trouble Response))
    (hnamed : ∀ request world trouble,
      ((send request).run world).1 = .error trouble → trouble.name ≠ "")
    (engine : Engine) (e : Endpoint) (arguments : Value) (world : σ)
    {o : Outcome} {after : σ} {sent : List Exchange}
    (h : (engine.execute (recorded send) e arguments).run (world, [])
      = (.ok o, after, sent)) :
    (∃! ending : Ending, ending.Fits engine e arguments sent o)
      ∧ o.endpoint = e.name
      ∧ o.method = String.ofList (upper e.method.toList)
      ∧ ∀ (d : Document) endpoints reports,
          d.catalog = .ok (endpoints, reports) → e ∈ endpoints →
          Apart (dropTrailing '/' engine.baseUrl.toList) e.pathParams →
          ((∃ name, engine.Lacks e arguments name)
            ↔ ∃ name ∈ Document.distinctTokens e.path,
                argument? name (argumentsOf arguments) = none) := by
  have hcases := cases_of_execute h
  obtain ⟨made, hplan⟩ : ∃ made, engine.plan e arguments = .ok made := by
    rcases hcases with ⟨hplan, -⟩ | ⟨_, _, hplan, -⟩
    · exact ⟨_, hplan⟩
    · exact ⟨_, hplan⟩
  have hfits : ∃ ending : Ending, ending.Fits engine e arguments sent o := by
    rcases hcases with ⟨hsettled, rfl⟩
      | ⟨request, answer, hsends, hanswer, hsettle, rfl⟩
    · exact fits_of_settled hsettled
    · refine fits_of_settle hsends (fun trouble htrouble => ?_) hsettle
      exact hnamed request world trouble (hanswer.trans htrouble)
  have hnames : o.endpoint = e.name
      ∧ o.method = String.ofList (upper e.method.toList) := by
    rcases hcases with ⟨hsettled, -⟩ | ⟨request, _, hsends, -, hsettle, -⟩
    · rcases plan_eq_ok hsettled with ⟨url, error, hmade⟩ | ⟨_, hmade, -⟩
      · cases hmade
        exact ⟨rfl, rfl⟩
      · cases hmade
    · rcases plan_eq_ok hsends with ⟨_, _, hmade⟩ | ⟨_, hmade, hmethod⟩
      · cases hmade
      · cases hmade
        obtain ⟨hendpoint, hsame⟩ := names_of_settle hsettle
        exact ⟨hendpoint, hsame.trans hmethod⟩
  obtain ⟨ending, hending⟩ := hfits
  refine ⟨⟨ending, hending, fun other hother => other.eq_of_fits hother
    hending⟩, hnames.1, hnames.2, fun d endpoints reports hd he hapart => ?_⟩
  obtain ⟨⟨url, missing⟩, hurl, -⟩ := Steps.bind_eq_ok.mp hplan
  exact exists_lacks_iff hd he hapart hurl

/-- Every request is answered with a status and nothing else. -/
def answering (status : Int) (_ : Request) :
    StateM Unit (Except Trouble Response) :=
  pure (.ok ⟨status, [], none⟩)

/-- A call whose requests are answered so. -/
def answeredCall (status : Int) (e : Endpoint)
    (given : List (Value × Value)) :
    Except Failure Outcome × Unit × List Exchange :=
  (Engine.execute (recorded (answering status)) ⟨"https://x.example", none⟩ e
    (.map given)).run ((), [])

/-- A call with its argument, for something that is not there, is
answered. -/
theorem execute_ending_answered :
    ∃ e reports o sent,
      (served "https://x.example" "/\x7bid\x7d").catalog = .ok ([e], reports)
        ∧ answeredCall 404 e [(.text "id", .int 7)] = (.ok o, (), sent)
        ∧ Answered ⟨"https://x.example", none⟩ e
            (.map [(.text "id", .int 7)]) sent o := by
  have hrun : ((served "https://x.example"
      "/\x7bid\x7d").catalog.toOption.map fun made => made.1.map fun e =>
        (answeredCall 404 e [(.text "id", .int 7)]).1.toOption.map
          Outcome.statusCode) = some [some (some 404)] := by
    decide +kernel
  obtain ⟨e, reports, hcatalog, hstatus⟩ := exists_of_catalog_map hrun
  obtain ⟨o, ho, hcode⟩ := Option.map_eq_some_iff.mp hstatus
  have hcall : answeredCall 404 e [(.text "id", .int 7)] = (.ok o, (), _) :=
    Prod.ext (Steps.eq_ok_of_toOption ho) rfl
  obtain ⟨⟨ending, hfits, -⟩, -⟩ := execute_ending (answering 404)
    (fun _ _ _ h => (by cases h)) _ e _ () hcall
  refine ⟨e, reports, o, _, hcatalog, hcall, ?_⟩
  cases ending with
  | incomplete => cases hcode.symm.trans hfits.silent.status
  | failed => cases hcode.symm.trans hfits.silent.status
  | answered => exact hfits

/-- A token without an argument does not keep every call from sending: the
token can be gone when its turn comes, for a token inside its name has been
filled. -/
theorem not_forall_ending :
    ¬ ∀ (d : Document) endpoints reports,
      d.catalog = .ok (endpoints, reports) → ∀ e ∈ endpoints,
      ∀ (send : Request → StateM Unit (Except Trouble Response))
        (engine : Engine) (arguments : Value) o sent,
        (engine.execute (recorded send) e arguments).run ((), [])
          = (.ok o, (), sent) →
        (∃ name ∈ Document.distinctTokens e.path,
          argument? name (argumentsOf arguments) = none) →
        sent = [] := by
  intro hall
  have hrun : ((served "https://x.example"
      "/\x7bb\x7d/\x7ba\x7bb\x7d").catalog.toOption.map fun made =>
        made.1.map fun e =>
          (e.path, (answeredCall 200 e [(.text "b", .text "X")]).1.isOk,
            (answeredCall 200 e [(.text "b", .text "X")]).2.2.length))
      = some [("/\x7bb\x7d/\x7ba\x7bb\x7d", true, 1)] := by
    decide +kernel
  obtain ⟨e, reports, hcatalog, hfacts⟩ := exists_of_catalog_map hrun
  obtain ⟨hpath, hfacts⟩ := Prod.mk.inj hfacts
  obtain ⟨hok, hlength⟩ := Prod.mk.inj hfacts
  obtain ⟨o, ho⟩ : ∃ o,
      (answeredCall 200 e [(.text "b", .text "X")]).1 = .ok o := by
    cases houtcome : (answeredCall 200 e [(.text "b", .text "X")]).1 with
    | error failure =>
        rw [houtcome] at hok
        cases hok
    | ok o => exact ⟨o, rfl⟩
  have hsent := hall _ _ reports hcatalog e List.mem_cons_self
    (answering 200) _ _ o _ (Prod.ext ho rfl) ⟨"a\x7bb", ?_, rfl⟩
  · rw [answeredCall] at hlength
    rw [hsent] at hlength
    cases hlength
  · rw [hpath]
    decide +kernel

end Engine

end Toolsmith
