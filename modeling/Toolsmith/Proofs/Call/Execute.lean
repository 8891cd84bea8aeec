/-
What calling an endpoint comes to, whatever the arguments, the credentials
and the answer. A call ends in an outcome, and what went wrong in it is the
error of that outcome, except in four places: an argument of the path that
has no text there, credentials that are no octets, an argument of the query
that has no text, and a response whose body cannot be read.
-/
import Toolsmith.Proofs.Call.Arguments

namespace Toolsmith.Engine

open Text

variable {given : List (Value × Value)}

-- ================================================================= URL

/-- What filling does at one parameter: the URL after it, and its name if
it misses an argument. -/
def place (given : List (Value × Value)) (p : Param) (url : List Char) :
    Except Failure (List Char × List String) :=
  if contains (token p.name) url then
    match argument? p.name given with
    | none => .ok (url, [p.name])
    | some v =>
      (placedText v).map fun text => (replace (token p.name) text url, [])
  else .ok (url, [])

/-- One parameter stops a URL exactly if it has a place there and an argument
without a text for it. -/
theorem place_error_iff {p : Param} {url : List Char} :
    (∃ failure, place given p url = .error failure)
      ↔ contains (token p.name) url = true
        ∧ ∃ v, argument? p.name given = some v ∧ ¬ Placeable v := by
  unfold place
  cases hcontains : contains (token p.name) url with
  | false =>
      exact ⟨fun ⟨_, h⟩ => (by cases h), fun h => absurd h.1 (by simp)⟩
  | true =>
      rw [if_pos rfl]
      cases hgiven : argument? p.name given with
      | none =>
          refine ⟨fun ⟨_, h⟩ => (by cases h), ?_⟩
          rintro ⟨_, _, hv, _⟩
          cases hv
      | some v =>
          have hplaced := not_congr (placedText_ok (v := v))
          rw [← Steps.exists_error_iff] at hplaced
          dsimp only
          cases htext : placedText v with
          | error failure =>
              rw [htext] at hplaced
              exact ⟨fun _ => ⟨rfl, v, rfl, hplaced.mp ⟨failure, rfl⟩⟩,
                fun _ => ⟨failure, rfl⟩⟩
          | ok text =>
              rw [htext] at hplaced
              refine ⟨fun ⟨_, h⟩ => (by cases h), ?_⟩
              rintro ⟨_, _, ⟨⟩, hv⟩
              obtain ⟨_, h⟩ := hplaced.mpr hv
              cases h

/-- Filling a URL is one parameter after the other. -/
theorem fill_cons (p : Param) (rest : List Param) (url : List Char) :
    fill given (p :: rest) url =
      (place given p url).bind fun made =>
        (fill given rest made.1).map fun more =>
          (more.1, made.2 ++ more.2) := by
  have hnothing : ∀ {x : Except Failure (List Char × List String)},
      x = x.map fun more => (more.1, [] ++ more.2) := by
    intro x
    cases x <;> rfl
  rw [fill, place]
  cases contains (token p.name) url with
  | false => exact hnothing
  | true =>
      simp only [Bool.not_true, Bool.false_eq_true, if_false, if_true]
      cases argument? p.name given with
      | none =>
          show (fill given rest url >>= fun made =>
              pure (made.1, p.name :: made.2))
            = (fill given rest url).map fun more =>
              (more.1, [p.name] ++ more.2)
          cases fill given rest url <;> rfl
      | some v =>
          have hplaced : ∀ {f : List Char →
                Except Failure (List Char × List String)},
              (argumentText v >>= fun text =>
                Failure.ofLone (Percent.encode? text) >>= f)
              = (placedText v).bind f := by
            intro f
            unfold placedText
            cases argumentText v <;> rfl
          refine hplaced.trans ?_
          dsimp only
          cases placedText v with
          | error failure => rfl
          | ok text => exact hnothing

/-- A URL is stopped exactly at a parameter in front of which everything is
filled. -/
theorem fill_error_iff {params : List Param} {url : List Char} :
    (∃ failure, fill given params url = .error failure)
      ↔ ∃ before p after filled missing,
          params = before ++ p :: after
          ∧ fill given before url = .ok (filled, missing)
          ∧ contains (token p.name) filled = true
          ∧ ∃ v, argument? p.name given = some v ∧ ¬ Placeable v := by
  induction params generalizing url with
  | nil =>
      refine ⟨fun ⟨_, h⟩ => (by cases h), ?_⟩
      rintro ⟨before, p, after, _, _, hsplit, _⟩
      exact absurd hsplit (by simp)
  | cons q rest ih =>
      rw [fill_cons]
      cases hplace : place given q url with
      | error failure =>
          obtain ⟨hcontains, hbad⟩ :=
            place_error_iff.mp ⟨failure, hplace⟩
          refine ⟨fun _ => ?_, fun _ => ⟨failure, rfl⟩⟩
          exact ⟨[], q, rest, url, [], rfl, rfl, hcontains, hbad⟩
      | ok made =>
          have hstep : (∃ failure, ((fill given rest made.1).map fun more =>
                (more.1, made.2 ++ more.2)) = .error failure)
              ↔ ∃ failure, fill given rest made.1 = .error failure := by
            cases fill given rest made.1 with
            | error failure =>
                exact ⟨fun _ => ⟨_, rfl⟩, fun _ => ⟨_, rfl⟩⟩
            | ok more =>
                exact ⟨fun ⟨_, h⟩ => (by cases h), fun ⟨_, h⟩ => (by cases h)⟩
          refine hstep.trans (ih.trans ?_)
          constructor
          · rintro ⟨before, p, after, filled, missing, rfl, hfill, hbad⟩
            refine ⟨q :: before, p, after, filled, made.2 ++ missing, rfl,
              ?_, hbad⟩
            rw [fill_cons, hplace]
            show (fill given before made.1).map _ = _
            rw [hfill]
            rfl
          · rintro ⟨before, p, after, filled, missing, hsplit, hfill, hbad⟩
            cases before with
            | nil =>
                cases hsplit
                cases hfill
                obtain ⟨_, h⟩ := place_error_iff.mpr hbad
                rw [hplace] at h
                cases h
            | cons q' before =>
                cases hsplit
                rw [fill_cons, hplace] at hfill
                obtain ⟨more, hmore, hout⟩ : ∃ more,
                    fill given before made.1 = .ok more
                      ∧ (more.1, made.2 ++ more.2) = (filled, missing) := by
                  cases hrun : fill given before made.1 with
                  | error failure =>
                      simp only [Except.bind, hrun, Except.map] at hfill
                      cases hfill
                  | ok more =>
                      simp only [Except.bind, hrun, Except.map] at hfill
                      exact ⟨more, rfl, Except.ok.inj hfill⟩
                cases hout
                exact ⟨before, p, after, more.1, more.2, rfl, hmore, hbad⟩

-- ======================================================= other contents

/-- Basic credentials make a value exactly if they are octets. -/
theorem basicValue_error_iff {username password : String} :
    (∃ run, Auth.basicValue username password = .error run)
      ↔ ¬ LoneFree (username.toList ++ ':' :: password.toList) := by
  unfold Auth.basicValue
  rw [Steps.exists_bind_eq_error, ← encode?_ok, ← Steps.exists_error_iff]
  refine or_iff_left ?_
  rintro ⟨_, _, _, h⟩
  cases h

/-- Credentials fail exactly for basic authentication with lone
surrogates. -/
theorem header?_error_iff {a : Auth} :
    (∃ run, a.header? = .error run)
      ↔ ∃ username password, a.scheme = .basic
          ∧ given? a.username = some username
          ∧ given? a.password = some password
          ∧ ¬ LoneFree (username.toList ++ ':' :: password.toList) := by
  constructor
  · rintro ⟨run, h⟩
    unfold Auth.header? at h
    split at h
    · cases h
    · split at h <;> cases h
    · split at h <;> cases h
    next hscheme =>
      split at h
      next username password husername hpassword =>
        refine ⟨username, password, hscheme, husername, hpassword, ?_⟩
        rcases Steps.bind_eq_error.mp h with h | ⟨_, _, h⟩
        · exact basicValue_error_iff.mp ⟨run, h⟩
        · cases h
      · cases h
  · rintro ⟨username, password, hscheme, husername, hpassword, hlone⟩
    unfold Auth.header?
    rw [hscheme, husername, hpassword]
    exact Steps.exists_bind_eq_error.mpr
      (Or.inl (basicValue_error_iff.mpr hlone))

/-- Headers fail exactly if the credentials do. -/
theorem headers_error_iff {engine : Engine} :
    (∃ failure, engine.headers = .error failure)
      ↔ ∃ auth, engine.auth = some auth
          ∧ ∃ run, auth.header? = .error run := by
  have hheaders : ∀ auth : Auth, (∃ run, auth.headers = .error run)
      ↔ ∃ run, auth.header? = .error run := by
    intro auth
    unfold Auth.headers
    rw [Steps.exists_bind_eq_error]
    refine or_iff_left ?_
    rintro ⟨_, _, _, h⟩
    cases h
  unfold headers
  cases engine.auth with
  | none =>
      refine ⟨fun ⟨_, h⟩ => (by cases h), ?_⟩
      rintro ⟨_, ⟨⟩, _⟩
  | some auth =>
      dsimp only
      rw [Steps.exists_bind_eq_error]
      constructor
      · rintro (⟨_, h⟩ | ⟨_, _, _, h⟩)
        · refine ⟨auth, rfl, (hheaders auth).mp ?_⟩
          cases hrun : auth.headers with
          | error run => exact ⟨run, rfl⟩
          | ok made =>
              rw [hrun] at h
              cases h
        · cases h
      · rintro ⟨_, ⟨⟩, h⟩
        obtain ⟨run, hrun⟩ := (hheaders auth).mpr h
        rw [hrun]
        exact Or.inl ⟨_, rfl⟩

/-- The query fails exactly for an argument without a text. -/
theorem query_error_iff {e : Endpoint} :
    (∃ failure, query e given = .error failure)
      ↔ ∃ p ∈ e.queryParams, ∃ v, argument? p.name given = some v
          ∧ ¬ Speakable v := by
  unfold query
  rw [Steps.exists_bind_eq_error, Steps.exists_mapM_eq_error]
  refine (or_iff_left ?_).trans ?_
  · rintro ⟨_, _, _, h⟩
    cases h
  refine exists_congr fun p => and_congr_right fun _ => ?_
  cases argument? p.name given with
  | none =>
      refine ⟨fun ⟨_, h⟩ => (by cases h), ?_⟩
      rintro ⟨_, ⟨⟩, _⟩
  | some v =>
      dsimp only
      rw [Steps.exists_bind_eq_error]
      have htext := not_congr (argumentText_ok (v := v))
      rw [← Steps.exists_error_iff] at htext
      constructor
      · rintro (h | ⟨_, _, _, h⟩)
        · exact ⟨v, rfl, htext.mp h⟩
        · cases h
      · rintro ⟨_, ⟨⟩, h⟩
        exact Or.inl (htext.mpr h)

-- ================================================================ plans

/-- A plan fails exactly if the URL does, or, with nothing missing in it, the
headers or the query. -/
theorem plan_error_iff {engine : Engine} {e : Endpoint} {arguments : Value} :
    (∃ failure, engine.plan e arguments = .error failure)
      ↔ (∃ failure, engine.url e (argumentsOf arguments) = .error failure)
        ∨ ∃ filled, engine.url e (argumentsOf arguments) = .ok (filled, [])
          ∧ ((∃ failure, engine.headers = .error failure)
            ∨ ∃ failure, query e (argumentsOf arguments)
                = .error failure) := by
  unfold plan
  dsimp only
  rw [Steps.exists_bind_eq_error]
  refine or_congr_right ?_
  constructor
  · rintro ⟨⟨filled, missing⟩, hurl, h⟩
    dsimp only at h
    split at h
    · obtain ⟨_, h⟩ := h
      cases h
    next hnone =>
    obtain rfl : missing = [] := by
      cases missing with
      | nil => rfl
      | cons name rest => exact absurd rfl hnone
    refine ⟨filled, hurl, ?_⟩
    rcases Steps.exists_bind_eq_error.mp h with h | ⟨made, _, h⟩
    · exact Or.inl h
    rcases Steps.exists_bind_eq_error.mp h with h | ⟨parts, _, h⟩
    · exact Or.inr h
    split at h <;> (obtain ⟨_, h⟩ := h; cases h)
  · rintro ⟨filled, hurl, h⟩
    refine ⟨(filled, []), hurl, ?_⟩
    cases hheaders : engine.headers with
    | error failure =>
        exact Steps.exists_bind_eq_error.mpr (Or.inl ⟨failure, rfl⟩)
    | ok made =>
        refine Steps.exists_bind_eq_error.mpr (Or.inr ⟨made, rfl, ?_⟩)
        rcases h with ⟨failure, h⟩ | h
        · rw [hheaders] at h
          cases h
        · exact Steps.exists_bind_eq_error.mpr (Or.inl h)

/-- What a call is planned as: what is missing in the path settles it, then a
content that JSON cannot hold, and everything else is a request. -/
inductive Planned (engine : Engine) (e : Endpoint) (arguments : Value) :
    Plan → Prop where
  | incomplete {url : List Char} {name : String} {missing : List String}
      (hurl : engine.url e (argumentsOf arguments)
        = .ok (url, name :: missing)) :
      Planned engine e arguments (.settled (unanswered e
        (String.ofList (upper e.method.toList)) (String.ofList url)
        (missingMessage (name :: missing))))
  | unwritable {url : List Char} {headers parts : List (String × String)}
      {fault : Json.WriteFault}
      (hurl : engine.url e (argumentsOf arguments) = .ok (url, []))
      (hheaders : engine.headers = .ok headers)
      (hquery : query e (argumentsOf arguments) = .ok parts)
      (hcontent : content (String.ofList (upper e.method.toList))
        (argumentsOf arguments) = .error fault) :
      Planned engine e arguments (.settled (unanswered e
        (String.ofList (upper e.method.toList)) (String.ofList url)
        fault.message))
  | request {url : List Char} {headers parts : List (String × String)}
      {text : Option String}
      (hurl : engine.url e (argumentsOf arguments) = .ok (url, []))
      (hheaders : engine.headers = .ok headers)
      (hquery : query e (argumentsOf arguments) = .ok parts)
      (hcontent : content (String.ofList (upper e.method.toList))
        (argumentsOf arguments) = .ok text) :
      Planned engine e arguments (.send
        ⟨String.ofList (upper e.method.toList), String.ofList url, headers,
          parts, text⟩)

/-- A plan that is made is one of these. -/
theorem planned_of_plan {engine : Engine} {e : Endpoint} {arguments : Value}
    {made : Plan} (h : engine.plan e arguments = .ok made) :
    Planned engine e arguments made := by
  unfold plan at h
  obtain ⟨⟨url, missing⟩, hurl, h⟩ := Steps.bind_eq_ok.mp h
  dsimp only at h
  cases missing with
  | cons name rest =>
      cases h
      exact .incomplete hurl
  | nil =>
      obtain ⟨headers, hheaders, h⟩ := Steps.bind_eq_ok.mp h
      obtain ⟨parts, hquery, h⟩ := Steps.bind_eq_ok.mp h
      split at h
      next fault hcontent =>
        cases h
        exact .unwritable hurl hheaders hquery hcontent
      next text hcontent =>
        cases h
        exact .request hurl hheaders hquery hcontent

/-- A plan that is made settles the call without success and says why, or
sends a request with the method of the endpoint. -/
theorem plan_eq_ok {engine : Engine} {e : Endpoint} {arguments : Value}
    {made : Plan} (h : engine.plan e arguments = .ok made) :
    (∃ url error, made = .settled
        (unanswered e (String.ofList (upper e.method.toList)) url error))
      ∨ ∃ request, made = .send request
          ∧ request.method = String.ofList (upper e.method.toList) := by
  cases planned_of_plan h with
  | incomplete _ => exact Or.inl ⟨_, _, rfl⟩
  | unwritable _ _ _ _ => exact Or.inl ⟨_, _, rfl⟩
  | request _ _ _ _ => exact Or.inr ⟨_, rfl, rfl⟩

-- ============================================================ execution

/-- The call of an endpoint ends without an outcome. -/
inductive Escapes (send : Request → Except Trouble Response)
    (engine : Engine) (e : Endpoint) (arguments : Value) : Prop where
  /-- A parameter has a place in the URL as it is filled so far, and its
  argument has no text there. -/
  | path {before after : List Param} {p : Param} {filled : List Char}
      {missing : List String} {v : Value}
      (hsplit : e.pathParams = before ++ p :: after)
      (hfilled : fill (argumentsOf arguments) before
          (dropTrailing '/' engine.baseUrl.toList ++ e.path.toList)
        = .ok (filled, missing))
      (hplace : contains (token p.name) filled = true)
      (hgiven : argument? p.name (argumentsOf arguments) = some v)
      (hbad : ¬ Placeable v)
  /-- Nothing is missing in the URL, and the credentials of basic
  authentication hold lone surrogates. -/
  | credentials {filled : List Char} {auth : Auth}
      {username password : String}
      (hurl : engine.url e (argumentsOf arguments) = .ok (filled, []))
      (hauth : engine.auth = some auth) (hscheme : auth.scheme = .basic)
      (husername : given? auth.username = some username)
      (hpassword : given? auth.password = some password)
      (hlone : ¬ LoneFree (username.toList ++ ':' :: password.toList))
  /-- Nothing is missing in the URL, and an argument of the query has no
  text. -/
  | query {filled : List Char} {p : Param} {v : Value}
      (hurl : engine.url e (argumentsOf arguments) = .ok (filled, []))
      (hp : p ∈ e.queryParams)
      (hgiven : argument? p.name (argumentsOf arguments) = some v)
      (hbad : ¬ Speakable v)
  /-- The request is answered, and the body of the response cannot be
  read. -/
  | response {request : Request} {answer : Response} {failure : Failure}
      (hplan : engine.plan e arguments = .ok (.send request))
      (hsend : send request = .ok answer)
      (hdata : answer.data = .error failure)

/-- A call fails exactly where it escapes. -/
theorem execute_error_iff {send : Request → Except Trouble Response}
    {engine : Engine} {e : Endpoint} {arguments : Value} :
    (∃ failure, engine.execute (m := Id) send e arguments = .error failure)
      ↔ Escapes send engine e arguments := by
  have hplan : (∃ failure, engine.plan e arguments = .error failure)
      → Escapes send engine e arguments := by
    intro h
    rcases plan_error_iff.mp h with h | ⟨filled, hurl, h | h⟩
    · obtain ⟨before, p, after, filled, missing, hsplit, hfilled, hplace, v,
        hgiven, hbad⟩ := fill_error_iff.mp h
      exact .path hsplit hfilled hplace hgiven hbad
    · obtain ⟨auth, hauth, h⟩ := headers_error_iff.mp h
      obtain ⟨username, password, hscheme, husername, hpassword, hlone⟩ :=
        header?_error_iff.mp h
      exact .credentials hurl hauth hscheme husername hpassword hlone
    · obtain ⟨p, hp, v, hgiven, hbad⟩ := query_error_iff.mp h
      exact .query hurl hp hgiven hbad
  have hfails : (∃ failure, engine.plan e arguments = .error failure) →
      ∃ failure,
        engine.execute (m := Id) send e arguments = .error failure := by
    rintro ⟨failure, h⟩
    refine ⟨failure, ?_⟩
    unfold execute
    rw [h]
    rfl
  unfold execute
  constructor
  · intro h
    cases hrun : engine.plan e arguments with
    | error failure => exact hplan ⟨failure, hrun⟩
    | ok made =>
        rw [hrun] at h
        cases made with
        | settled o =>
            obtain ⟨_, h⟩ := h
            cases h
        | send request =>
            obtain ⟨failure, h⟩ := h
            change settle e request (send request) = .error failure at h
            cases hsend : send request with
            | error trouble =>
                rw [hsend] at h
                cases h
            | ok answer =>
                rw [hsend] at h
                rcases Steps.bind_eq_error.mp h with hdata | ⟨_, _, h⟩
                · exact .response hrun hsend hdata
                · cases h
  · intro h
    cases h with
    | path hsplit hfilled hplace hgiven hbad =>
        exact hfails (plan_error_iff.mpr (Or.inl (fill_error_iff.mpr
          ⟨_, _, _, _, _, hsplit, hfilled, hplace, _, hgiven, hbad⟩)))
    | credentials hurl hauth hscheme husername hpassword hlone =>
        exact hfails (plan_error_iff.mpr (Or.inr ⟨_, hurl, Or.inl
          (headers_error_iff.mpr ⟨_, hauth, header?_error_iff.mpr
            ⟨_, _, hscheme, husername, hpassword, hlone⟩⟩)⟩))
    | query hurl hp hgiven hbad =>
        exact hfails (plan_error_iff.mpr (Or.inr ⟨_, hurl, Or.inr
          (query_error_iff.mpr ⟨_, hp, _, hgiven, hbad⟩)⟩))
    | @response request answer failure hplan hsend hdata =>
        rw [hplan]
        refine ⟨failure, ?_⟩
        show settle e request (send request) = .error failure
        rw [hsend]
        exact Steps.bind_eq_error.mpr (Or.inl hdata)

/-- The outcome says how it is about its own call. -/
structure Faithful (e : Endpoint) (o : Outcome) : Prop where
  /-- An outcome is a success exactly if it has no error. -/
  success_iff : o.success = true ↔ o.error = none
  /-- Without a response there is no success. -/
  unanswered : o.statusCode = none → o.success = false
  endpoint : o.endpoint = e.name
  method : o.method = String.ofList (upper e.method.toList)
  url : o.url.isSome = true

/-- A response without success has an error. -/
theorem isSuccess_iff (r : Response) :
    r.isSuccess = true ↔ r.error? = none := by
  unfold Response.error?
  cases r.isSuccess with
  | true => exact ⟨fun _ => rfl, fun _ => rfl⟩
  | false => exact ⟨fun h => (by cases h), fun h => (by cases h)⟩

/-- An outcome without a response has an error. -/
theorem faithful_unanswered (e : Endpoint) (url error : String) :
    Faithful e
      (unanswered e (String.ofList (upper e.method.toList)) url error) where
  success_iff := ⟨fun h => (by cases h), fun h => (by cases h)⟩
  unanswered := fun _ => rfl
  endpoint := rfl
  method := rfl
  url := rfl

/-- Every outcome of a call is faithful. -/
theorem faithful_of_execute {send : Request → Except Trouble Response}
    {engine : Engine} {e : Endpoint} {arguments : Value} {o : Outcome}
    (h : engine.execute (m := Id) send e arguments = .ok o) :
    Faithful e o := by
  unfold execute at h
  cases hrun : engine.plan e arguments with
  | error failure =>
      rw [hrun] at h
      cases h
  | ok made =>
      rw [hrun] at h
      rcases plan_eq_ok hrun with ⟨url, error, rfl⟩
        | ⟨request, rfl, hmethod⟩
      · cases h
        exact faithful_unanswered e url error
      · change settle e request (send request) = .ok o at h
        cases hsend : send request with
        | error trouble =>
            rw [hsend] at h
            cases h
            rw [hmethod]
            exact faithful_unanswered e request.url trouble.text
        | ok answer =>
            rw [hsend] at h
            obtain ⟨data, _, h⟩ := Steps.bind_eq_ok.mp h
            cases h
            exact ⟨isSuccess_iff answer, fun h => (by cases h), rfl, hmethod,
              rfl⟩

/-- What goes wrong while sending is the error of the outcome. -/
theorem execute_trouble {send : Request → Except Trouble Response}
    {engine : Engine} {e : Endpoint} {arguments : Value} {request : Request}
    {trouble : Trouble}
    (hplan : engine.plan e arguments = .ok (.send request))
    (hsend : send request = .error trouble) :
    ∃ o, engine.execute (m := Id) send e arguments = .ok o
      ∧ o.error = some trouble.text := by
  unfold execute
  rw [hplan]
  refine ⟨unanswered e request.method request.url trouble.text, ?_, rfl⟩
  show settle e request (send request) = _
  rw [hsend]
  rfl

/-- An argument from JSON text is one that JSON can hold. -/
theorem speakable_of_read {s : List Char} {arguments v : Value}
    {name : String} (h : Json.read s = .ok arguments)
    (hv : argument? name (argumentsOf arguments) = some v) :
    Speakable v := by
  have hform := Json.hasForm_of_read h
  cases hform with
  | map hkeys hforms =>
      have hentry := (argument?_eq_some_iff.mp hv).1
      exact speakable_of_hasForm
        (Json.hasForm_of_entry? (.map hkeys hforms) hentry)
  | _ => cases hv

/-- An endpoint with one parameter, in the query. -/
def queried : Endpoint :=
  { id := "get_a", name := "a", method := "GET", path := "/a"
    description := "GET /a"
    parameters := [⟨"q", "array", false, none, .query⟩]
    requestBody := .null, response := .null }

end Toolsmith.Engine
