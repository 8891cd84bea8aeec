/-
What a call takes from its arguments. Whoever gives them may put anything under
any name, and only a few names are looked at: those of the parameters of the
path, those of the query, and `body` where the method has a content. Two sets
of arguments that agree there make one call, whatever else stands in them.

What agrees need not be written alike. An argument that is `null` and one that
is not there are both missing, so `null` is what counts for either.
-/
import Toolsmith.Proofs.Call.Endings

namespace Toolsmith.Engine

open Text

-- =========================================================== agreement

/-- What stands under a name among arguments, `null` if nothing does. -/
def givenFor (arguments : Value) (name : String) : Value :=
  (Value.entry? name (argumentsOf arguments)).getD .null

/-- Two sets of arguments agree on what a call of the endpoint is about. -/
structure AgreeFor (e : Endpoint) (a b : Value) : Prop where
  path : ∀ p ∈ e.pathParams, givenFor a p.name = givenFor b p.name
  query : ∀ p ∈ e.queryParams, givenFor a p.name = givenFor b p.name
  body : String.ofList (upper e.method.toList) ≠ "GET" →
    givenFor a "body" = givenFor b "body"

/-- An argument is what stands under its name, if that is not `null`. -/
theorem argument?_eq (arguments : Value) (name : String) :
    argument? name (argumentsOf arguments)
      = match givenFor arguments name with
        | .null => none
        | v => some v := by
  unfold argument? givenFor
  cases Value.entry? name (argumentsOf arguments) with
  | none => rfl
  | some v => cases v <;> rfl

theorem argument?_congr {a b : Value} {name : String}
    (h : givenFor a name = givenFor b name) :
    argument? name (argumentsOf a) = argument? name (argumentsOf b) := by
  rw [argument?_eq, argument?_eq, h]

variable {given given' : List (Value × Value)}

/-- A URL is filled from the arguments under the names of its parameters. -/
theorem fill_congr {params : List Param}
    (h : ∀ p ∈ params, argument? p.name given = argument? p.name given')
    (url : List Char) : fill given params url = fill given' params url := by
  induction params generalizing url with
  | nil => rfl
  | cons p rest ih =>
      obtain ⟨hhere, hrest⟩ := List.forall_mem_cons.mp h
      have hplace : place given p url = place given' p url := by
        unfold place
        rw [hhere]
      rw [fill_cons, fill_cons, hplace]
      exact congrArg _ (funext fun made => by rw [ih hrest])

/-- So is a query. -/
theorem query_congr {e : Endpoint}
    (h : ∀ p ∈ e.queryParams,
      argument? p.name given = argument? p.name given') :
    query e given = query e given' := by
  unfold query
  refine congrArg (· >>= _) (Steps.mapM_congr fun p hp => ?_)
  rw [h p hp]

/-- A content is made from the argument `body`, and only for a method that has
one. -/
theorem content_congr {method : String}
    (h : method ≠ "GET" → argument? "body" given = argument? "body" given') :
    content method given = content method given' := by
  by_cases hmethod : method = "GET"
  · have hnone : ∀ arguments, content method arguments = .ok none := by
      intro arguments
      unfold content
      rw [hmethod]
      split <;> rfl
    rw [hnone, hnone]
  · unfold content
    rw [h hmethod]

/-- Calls with arguments that agree have one plan. -/
theorem plan_congr (engine : Engine) {e : Endpoint} {a b : Value}
    (h : AgreeFor e a b) : engine.plan e a = engine.plan e b := by
  have hurl : engine.url e (argumentsOf a) = engine.url e (argumentsOf b) :=
    fill_congr (fun p hp => argument?_congr (h.path p hp)) _
  have hquery : query e (argumentsOf a) = query e (argumentsOf b) :=
    query_congr fun p hp => argument?_congr (h.query p hp)
  have hcontent := content_congr fun hmethod => argument?_congr (h.body hmethod)
  unfold plan
  dsimp only
  rw [hurl, hquery, hcontent]

-- =============================================================== query

/-- An entry of a query is about a parameter: it has its name, and the text of
its argument. -/
structure Asks (arguments : Value) (p : Param) (entry : String × String) :
    Prop where
  name : entry.1 = p.name
  text : argumentText (givenFor arguments p.name) = .ok entry.2.toList

/-- The parameter has an argument: what stands under its name is not
`null`. -/
def hasArgument (arguments : Value) (p : Param) : Bool :=
  match givenFor arguments p.name with
  | .null => false
  | _ => true

theorem hasArgument_eq (arguments : Value) (p : Param) :
    hasArgument arguments p
      = (argument? p.name (argumentsOf arguments)).isSome := by
  rw [argument?_eq]
  unfold hasArgument
  cases givenFor arguments p.name <;> rfl

/-- A query has an entry for every parameter with an argument, in their
order. -/
theorem query_eq_ok {e : Endpoint} {arguments : Value}
    {entries : List (String × String)}
    (h : query e (argumentsOf arguments) = .ok entries) :
    List.Forall₂ (Asks arguments)
      (e.queryParams.filter (hasArgument arguments)) entries := by
  obtain ⟨found, hfound, h⟩ := Steps.bind_eq_ok.mp h
  cases h
  refine Steps.forall₂_filter_of_mapM (fun p hp => ?_) (fun p entry hp => ?_)
    hfound
  · cases hgiven : argument? p.name (argumentsOf arguments) with
    | none => rw [hasArgument_eq, hgiven]; rfl
    | some v =>
        rw [hgiven] at hp
        obtain ⟨_, -, hp⟩ := Steps.bind_eq_ok.mp hp
        cases hp
  · cases hgiven : argument? p.name (argumentsOf arguments) with
    | none => rw [hgiven] at hp; cases hp
    | some v =>
        rw [hgiven] at hp
        obtain ⟨text, htext, hp⟩ := Steps.bind_eq_ok.mp hp
        cases hp
        refine ⟨by rw [hasArgument_eq, hgiven]; rfl, rfl, ?_⟩
        obtain ⟨hentry, -⟩ := argument?_eq_some_iff.mp hgiven
        rw [givenFor, hentry, Option.getD_some, htext, String.toList_ofList]

-- =============================================================== calls

variable {σ : Type} {send : Request → StateM σ (Except Trouble Response)}
  {engine : Engine} {e : Endpoint} {arguments : Value}

/-- Whatever a call sends is the request that it was planned as. -/
theorem plan_of_sent {world after : σ} {result : Except Failure Outcome}
    {sent : List Exchange}
    (h : (engine.execute (recorded send) e arguments).run (world, [])
      = (result, after, sent)) :
    ∀ exchange ∈ sent, engine.plan e arguments = .ok (.send exchange.1) := by
  unfold execute at h
  intro exchange hexchange
  cases hplan : engine.plan e arguments with
  | error failure =>
      rw [hplan] at h
      cases h
      cases hexchange
  | ok made =>
      rw [hplan] at h
      cases made with
      | settled o =>
          cases h
          cases hexchange
      | send request =>
          cases h
          rw [List.nil_append, List.mem_singleton] at hexchange
          rw [hexchange]

/-- Arguments that agree on what a call is about make one call of it. The same
requests go out to the world, the same comes back, and the call ends in the
same outcome or the same failure. The query of a request has the parameters
with an argument and nothing else, in the order of the endpoint. -/
theorem execute_of_agreeFor {σ : Type}
    (send : Request → StateM σ (Except Trouble Response)) (engine : Engine)
    {e : Endpoint} {a b : Value} (h : AgreeFor e a b) (world : σ) :
    (engine.execute (recorded send) e a).run (world, [])
        = (engine.execute (recorded send) e b).run (world, [])
      ∧ ∀ result after sent,
          (engine.execute (recorded send) e a).run (world, [])
            = (result, after, sent) →
          ∀ exchange ∈ sent, List.Forall₂ (Asks a)
            (e.queryParams.filter (hasArgument a)) exchange.1.query := by
  constructor
  · unfold execute
    rw [plan_congr engine h]
  · intro result after sent hrun exchange hexchange
    have hplan := plan_of_sent hrun exchange hexchange
    generalize exchange.1 = request at hplan
    cases planned_of_plan hplan with
    | request _ _ hquery _ => exact query_eq_ok hquery

/-- An endpoint with a content, one place in its path, two parameters of the
query and one among the headers. -/
def posted : Endpoint :=
  let param (name : String) (location : Location) : Param :=
    ⟨name, "string", false, none, location⟩
  { id := "post_a_id_", name := "a", method := "Post", path := "/a/\x7bid\x7d"
    description := "", requestBody := .null, response := .null
    parameters := [param "q" .query, param "id" .path, param "key" .header,
      param "body" .query] }

/-- Arguments for it, with others that it does not look at. -/
def crowded : List (Value × Value) :=
  [(.text "key", .text "secret"), (.text "id", .int 7), (.text "q", .null),
   (.text "body", .list [.bool true]), (.int 7, .text "a")]

/-- The same without those. -/
def uncrowded : List (Value × Value) :=
  [(.text "body", .list [.bool true]), (.text "id", .int 7)]

/-- Both make one call, whose query has no entry for `q`. -/
theorem execute_of_agreeFor_crowded :
    AgreeFor posted (.map crowded) (.map uncrowded)
      ∧ answeredCall 200 posted crowded = answeredCall 200 posted uncrowded
      ∧ ∃ request, (answeredCall 200 posted crowded).2.2.map Prod.fst
          = [request]
        ∧ List.Forall₂ (Asks (.map crowded))
          (posted.queryParams.filter (hasArgument (.map crowded)))
          request.query
        ∧ request.query = [("body", "[true]")]
        ∧ request.content = some "[true]" := by
  have hagree : AgreeFor posted (.map crowded) (.map uncrowded) := by
    refine ⟨fun p hp => ?_, fun p hp => ?_, fun _ => rfl⟩
    · obtain rfl := List.mem_singleton.mp hp
      rfl
    · rcases List.mem_cons.mp hp with rfl | hp
      · rfl
      · obtain rfl := List.mem_singleton.mp hp
        rfl
  obtain ⟨hsame, hquery⟩ := execute_of_agreeFor (answering 200)
    ⟨"https://x.example", none⟩ hagree ()
  have hsent : (answeredCall 200 posted crowded).2.2.map Prod.fst
      = [⟨"POST", "https://x.example/a/7",
          [("Content-Type", "application/json"), ("User-Agent", userAgent)],
          [("body", "[true]")], some "[true]"⟩] := by
    decide +kernel
  refine ⟨hagree, hsame, _, hsent, ?_, rfl, rfl⟩
  -- the run stays closed from here on, for only its one request matters
  generalize hrun : answeredCall 200 posted crowded = run at hsent
  obtain ⟨result, after, sent⟩ := run
  obtain ⟨exchange, rfl, hfirst⟩ := List.map_eq_singleton_iff.mp hsent
  exact hfirst ▸ hquery result after _ hrun exchange List.mem_cons_self

end Toolsmith.Engine
