/-
When the resolver calls an endpoint, and what the engine makes of the call.
The verdict of a model warrants a call if it asks for one, names an endpoint
that the catalog finds, misses nothing and has an argument for every
parameter of the path. An intent calls exactly what a verdict warrants. So its
call has all arguments that the engine wants for the path; and since they
come out of JSON, the engine sends a request, unless it fails.
-/
import Toolsmith.Proofs.Call.Complete
import Toolsmith.Proofs.Chat.Reply
import Toolsmith.Proofs.Shape

namespace Toolsmith

-- ============================================================== lookups

/-- An endpoint that is found stands in the catalog. -/
theorem Catalog.mem_of_findByName {endpoints : List Endpoint} {name : String}
    {e : Endpoint} (h : findByName endpoints name = some e) :
    e ∈ endpoints := by
  unfold findByName at h
  split at h
  · cases h
  rcases Option.or_eq_some_iff.mp h with h | ⟨-, h⟩
  · exact List.mem_of_find?_eq_some h
  · exact List.mem_of_find?_eq_some h

/-- The empty name finds nothing. -/
theorem Catalog.ne_empty_of_findByName {endpoints : List Endpoint}
    {name : String} {e : Endpoint} (h : findByName endpoints name = some e) :
    name ≠ "" := by
  rintro rfl
  cases h

namespace Chat

-- ============================================================= verdicts

/-- The arguments of a verdict are a mapping in its record, or none. -/
theorem arguments_of_check {confidence : Option Binary64}
    {entries : List (Value × Value)} {v : Verdict}
    (h : Verdict.check confidence (.map entries) = .ok v) :
    v.arguments = [] ∨ ∃ name,
      Value.entry? name entries = some (.map v.arguments) := by
  -- the fields are peeled off from the last one to the first one
  obtain ⟨_, reasoning, hstated, -, rfl⟩ := Shape.Checked.seq_eq_ok h
  obtain ⟨_, stated, hmissing, -, rfl⟩ := Shape.Checked.seq_eq_ok hstated
  obtain ⟨_, missing, hgiven, -, rfl⟩ := Shape.Checked.seq_eq_ok hmissing
  obtain ⟨_, arguments, hnamed, hfield, rfl⟩ := Shape.Checked.seq_eq_ok hgiven
  obtain ⟨_, endpointName, hasked, -, rfl⟩ := Shape.Checked.seq_eq_ok hnamed
  obtain ⟨_, shouldExecute, hmade, -, rfl⟩ :=
    Shape.Checked.seq_eq_ok (f := pure Verdict.mk) hasked
  cases hmade
  change arguments = [] ∨ ∃ name,
    Value.entry? name entries = some (.map arguments)
  rcases Shape.fieldOr_eq_ok hfield with hnone | ⟨name, w, hentry, hcheck⟩
  · exact Or.inl hnone
  · unfold Verdict.argumentsCheck at hcheck
    split at hcheck
    · cases hcheck
      exact Or.inl rfl
    · cases hcheck
      exact Or.inr ⟨name, hentry⟩
    · cases hcheck

/-- The record that a verdict is read from, JSON can hold. -/
theorem hasForm_of_json? {reply : String} {v : Value}
    (h : json? reply = .ok (some v)) : Json.HasForm v := by
  have hread : ∀ {s : List Char}, readJson? s = .ok (some v) →
      Json.HasForm v := by
    intro s hs
    unfold readJson? at hs
    split at hs
    next w hw =>
      cases hs
      exact Json.hasForm_of_read hw
    · cases hs
    · cases hs
  obtain ⟨found, hfound, h⟩ := Steps.bind_eq_ok.mp h
  cases found with
  | some w =>
      cases h
      exact hread hfound
  | none =>
      dsimp only at h
      split at h
      · exact hread h
      · cases h

/-- The arguments of a verdict come out of JSON, so JSON can hold them. -/
theorem hasForm_of_ofReply {reply : String} {v : Verdict}
    (h : Verdict.ofReply reply = .ok (.verdict v)) :
    Json.HasForm (.map v.arguments) := by
  obtain ⟨found, hjson, h⟩ := Steps.bind_eq_ok.mp h
  split at h
  next entries =>
    have hform := hasForm_of_json? hjson
    split at h
    · cases h
    obtain ⟨confidence, -, h⟩ := Steps.bind_eq_ok.mp h
    split at h
    next w hw =>
      cases h
      rcases arguments_of_check hw with hnone | ⟨name, hentry⟩
      · rw [hnone]
        exact .map (fun e he => by cases he) (fun e he => by cases he)
      · exact Json.hasForm_of_entry? hform hentry
    · cases h
  · cases h

/-- The verdict warrants a call of the endpoint. -/
structure Verdict.Warrants (v : Verdict) (endpoints : List Endpoint)
    (e : Endpoint) : Prop where
  /-- It asks for a call. -/
  asks : v.shouldExecute = true
  /-- It names the endpoint. -/
  names : ∃ name, v.endpointName = some name ∧ name ≠ ""
    ∧ Catalog.findByName endpoints name = some e
  /-- It misses nothing. -/
  complete : v.missing = []
  /-- It has an argument for every parameter of the path. -/
  gives : ∀ p ∈ e.pathParams, ∃ w,
    Value.entry? p.name v.arguments = some w ∧ w ≠ .null

variable {endpoints : List Endpoint} {v : Verdict} {e : Endpoint}

/-- An endpoint is wanted if the verdict asks for it and misses nothing. -/
theorem wanted?_eq_some_iff :
    Intent.wanted? endpoints v = some e
      ↔ v.shouldExecute = true ∧ v.missing = []
        ∧ ∃ name, v.endpointName = some name ∧ name ≠ ""
          ∧ Catalog.findByName endpoints name = some e := by
  unfold Intent.wanted?
  have hnames : v.endpointName.bind (Catalog.findByName endpoints) = some e
      ↔ ∃ name, v.endpointName = some name ∧ name ≠ ""
        ∧ Catalog.findByName endpoints name = some e := by
    rw [Option.bind_eq_some_iff]
    exact exists_congr fun name => and_congr_right fun _ =>
      ⟨fun h => ⟨Catalog.ne_empty_of_findByName h, h⟩, fun h => h.2⟩
  split
  next h =>
    rw [Bool.and_eq_true, List.isEmpty_iff] at h
    rw [hnames]
    exact ⟨fun hname => ⟨h.1, h.2, hname⟩, fun hall => hall.2.2⟩
  next h =>
    rw [Bool.and_eq_true, List.isEmpty_iff] at h
    exact ⟨fun hnone => (by cases hnone),
      fun hall => absurd ⟨hall.1, hall.2.1⟩ h⟩

/-- No parameter of the path is without argument exactly if each has one. -/
theorem withoutArgument_eq_nil_iff {arguments : Arguments} :
    Intent.withoutArgument e arguments = []
      ↔ ∀ p ∈ e.pathParams, ∃ w,
        Value.entry? p.name arguments = some w ∧ w ≠ .null := by
  unfold Intent.withoutArgument
  rw [List.filter_eq_nil_iff, List.forall_mem_map]
  refine forall₂_congr fun p _ => ?_
  cases Value.entry? p.name arguments with
  | none => simp
  | some w => cases w <;> simp

/-- An intent calls the endpoint that the verdict warrants, with its
arguments. -/
theorem target_ofVerdict_iff {arguments : Arguments} :
    (Intent.ofVerdict endpoints v).target = some (e, arguments)
      ↔ v.Warrants endpoints e ∧ arguments = v.arguments := by
  unfold Intent.ofVerdict
  constructor
  · intro h
    split at h
    next d hwanted =>
      dsimp only at h
      split at h
      next hnone =>
        cases h
        obtain ⟨hasks, hcomplete, hnames⟩ := wanted?_eq_some_iff.mp hwanted
        rw [List.isEmpty_iff, withoutArgument_eq_nil_iff] at hnone
        exact ⟨⟨hasks, hnames, hcomplete, hnone⟩, rfl⟩
      · cases h
    · cases h
  · rintro ⟨⟨hasks, hnames, hcomplete, hgives⟩, rfl⟩
    rw [wanted?_eq_some_iff.mpr ⟨hasks, hcomplete, hnames⟩]
    dsimp only
    rw [if_pos (List.isEmpty_iff.mpr (withoutArgument_eq_nil_iff.mpr hgives))]

/-- An intent that calls misses nothing. -/
theorem missing_ofVerdict
    (h : (Intent.ofVerdict endpoints v).target.isSome = true) :
    (Intent.ofVerdict endpoints v).missing = [] := by
  unfold Intent.ofVerdict at h ⊢
  split
  next d hwanted =>
    rw [hwanted] at h
    dsimp only at h ⊢
    split
    · rfl
    next hsome =>
      rw [if_neg hsome] at h
      cases h
  next hnone =>
    rw [hnone] at h
    cases h

/-- What an intent calls is in the catalog. -/
theorem mem_of_target {reply : String} {i : Intent} {arguments : Arguments}
    (h : Intent.ofReply endpoints reply = .ok i)
    (htarget : i.target = some (e, arguments)) : e ∈ endpoints := by
  obtain ⟨reading, -, h⟩ := Steps.bind_eq_ok.mp h
  cases reading with
  | malformed why =>
      cases h
      cases htarget
  | verdict v =>
      cases h
      obtain ⟨name, -, -, hfound⟩ := (target_ofVerdict_iff.mp htarget).1.names
      exact Catalog.mem_of_findByName hfound

-- ============================================================ resolving

/-- The resolver and the engine agree on what a call is. For every catalog,
utterance and backend on which the resolver comes to an intent, the backend
gave a reply. The intent calls exactly if that reply is a verdict that
warrants a call of an endpoint; then it calls this endpoint of the catalog
with the arguments of the verdict and misses nothing, and otherwise it has
neither endpoint nor arguments. No engine finds a parameter of the path
missing in such a call, and every outcome of the call is that of a request
that was sent. -/
theorem resolve_calls (endpoints : List Endpoint) (utterance : String)
    (backend : Phase → Question → Except Failure String)
    (engine : Phase → Endpoint → Arguments → Except Failure Outcome)
    {i : Intent}
    (h : (resolve endpoints utterance).run (m := Id) backend engine
      = .ok i) :
    ∃ reply,
      backend .resolving (analysisQuestion endpoints utterance) = .ok reply
      ∧ (i.shouldExecute = true ↔ ∃ v e,
          Verdict.ofReply reply = .ok (.verdict v)
            ∧ v.Warrants endpoints e)
      ∧ (∀ v e, Verdict.ofReply reply = .ok (.verdict v) →
          v.Warrants endpoints e →
          i.target = some (e, v.arguments) ∧ e ∈ endpoints
            ∧ i.missing = [])
      ∧ (i.shouldExecute = false → i.target = none)
      ∧ ∀ e arguments, i.target = some (e, arguments) →
          ∀ api : Engine,
            (∀ filled missing,
              api.url e arguments = .ok (filled, missing) → missing = [])
            ∧ ∀ send o,
              api.execute (m := Id) send e (.map arguments) = .ok o →
              ∃ request, api.plan e (.map arguments) = .ok (.send request)
                ∧ Engine.settle e request (send request) = .ok o := by
  rw [run_resolve] at h
  obtain ⟨reply, hreply, h⟩ := Steps.bind_eq_ok.mp h
  refine ⟨reply, hreply, ?_⟩
  obtain ⟨reading, hreading, h⟩ := Steps.bind_eq_ok.mp h
  have hnone : i.shouldExecute = false → i.target = none := by
    intro hno
    exact Option.isNone_iff_eq_none.mp (by
      rw [← Option.not_isSome]
      simpa [Intent.shouldExecute] using hno)
  cases reading with
  | malformed why =>
      cases h
      refine ⟨⟨fun hcall => (by cases hcall), ?_⟩, ?_, hnone, ?_⟩
      · rintro ⟨v, e, hv, -⟩
        rw [hreading] at hv
        cases hv
      · intro v e hv
        rw [hreading] at hv
        cases hv
      · intro e arguments htarget
        cases htarget
  | verdict v =>
      cases h
      have hcalls : ∀ e, v.Warrants endpoints e →
          (Intent.ofVerdict endpoints v).target = some (e, v.arguments) :=
        fun e hwarrants => target_ofVerdict_iff.mpr ⟨hwarrants, rfl⟩
      refine ⟨⟨?_, ?_⟩, ?_, hnone, ?_⟩
      · intro hcall
        obtain ⟨⟨e, arguments⟩, htarget⟩ := Option.isSome_iff_exists.mp hcall
        exact ⟨v, e, hreading, (target_ofVerdict_iff.mp htarget).1⟩
      · rintro ⟨w, e, hw, hwarrants⟩
        rw [hreading] at hw
        cases hw
        unfold Intent.shouldExecute
        rw [hcalls e hwarrants]
        rfl
      · intro w e hw hwarrants
        rw [hreading] at hw
        cases hw
        have htarget := hcalls e hwarrants
        obtain ⟨name, -, -, hfound⟩ := hwarrants.names
        refine ⟨htarget, Catalog.mem_of_findByName hfound, ?_⟩
        exact missing_ofVerdict (by rw [htarget]; rfl)
      · intro e arguments htarget api
        obtain ⟨hwarrants, rfl⟩ := target_ofVerdict_iff.mp htarget
        have hgiven : ∀ p ∈ e.pathParams, ∃ w,
            Engine.argument? p.name v.arguments = some w := by
          intro p hp
          obtain ⟨w, hw⟩ := hwarrants.gives p hp
          exact ⟨w, Engine.argument?_eq_some_iff.mpr hw⟩
        exact ⟨fun filled missing hurl => Engine.url_complete hgiven hurl,
          fun send o ho =>
            Engine.execute_complete hgiven (hasForm_of_ofReply hreading) ho⟩

/-- An endpoint with a parameter in its path. -/
def pathed : Endpoint :=
  { id := "get_users_id", name := "getUser", method := "GET"
    path := "/users/\x7bid\x7d", description := "One user"
    parameters := [⟨"id", "string", true, none, .path⟩]
    requestBody := .null, response := .null }

/-- A reply that asks for a call of that endpoint. -/
def pathedReply : String :=
  "\x7b\"shouldExecute\": true, \"endpointName\": \"user\", "
    ++ "\"extractedParameters\": \x7b\"id\": 7\x7d\x7d"

/-- The reply names the endpoint by a part of its name. That is enough for a
call of it. -/
theorem target_of_pathedReply :
    ∃ i arguments, Intent.ofReply [pathed] pathedReply = .ok i
      ∧ i.target = some (pathed, arguments) := by
  have hcall : (match Intent.ofReply [pathed] pathedReply with
      | .ok i => i.target.isSome
      | .error _ => false) = true := by
    decide +kernel
  split at hcall
  next i hi =>
    obtain ⟨⟨e, arguments⟩, htarget⟩ := Option.isSome_iff_exists.mp hcall
    obtain rfl := List.mem_singleton.mp (mem_of_target hi htarget)
    exact ⟨i, arguments, hi, htarget⟩
  · cases hcall

/-- The endpoint is called, and every outcome of the call is that of a
request. -/
theorem resolve_calls_pathed :
    ∃ i arguments,
      (resolve [pathed] "Get user 7").run (m := Id)
          (fun _ _ => .ok pathedReply) (fun _ _ _ => .error .json) = .ok i
        ∧ i.target = some (pathed, arguments)
        ∧ ∀ (api : Engine) send o,
          api.execute (m := Id) send pathed (.map arguments) = .ok o →
          ∃ request, api.plan pathed (.map arguments) = .ok (.send request)
            ∧ Engine.settle pathed request (send request) = .ok o := by
  obtain ⟨i, arguments, hread, htarget⟩ := target_of_pathedReply
  have hrun : (resolve [pathed] "Get user 7").run (m := Id)
      (fun _ _ => .ok pathedReply) (fun _ _ _ => .error .json) = .ok i := by
    rw [run_resolve]
    exact Steps.bind_eq_ok.mpr ⟨pathedReply, rfl, hread⟩
  obtain ⟨reply, -, -, -, -, hengine⟩ :=
    resolve_calls [pathed] "Get user 7" (fun _ _ => .ok pathedReply)
      (fun _ _ _ => .error .json) hrun
  exact ⟨i, arguments, hrun, htarget,
    fun api => (hengine pathed arguments htarget api).2⟩

end Chat

end Toolsmith
