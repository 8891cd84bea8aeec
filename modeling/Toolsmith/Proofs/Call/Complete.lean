/-
Calls that have an argument for every parameter of the path. The engine fills
the path on its own terms, parameter by parameter in a URL that changes on the
way; but only a parameter without an argument can miss there, so such a call is
never settled for want of one. If JSON can hold its arguments, nothing else
settles it either: unless it fails, it sends a request.
-/
import Toolsmith.Proofs.Call.Execute

namespace Toolsmith.Engine

variable {given : List (Value × Value)}

/-- At one parameter only that parameter can miss, for want of an argument. -/
theorem missing_of_place {p : Param} {url : List Char}
    {made : List Char × List String} (h : place given p url = .ok made)
    {name : String} (hname : name ∈ made.2) :
    p.name = name ∧ argument? name given = none := by
  unfold place at h
  split at h
  · split at h
    next hnone =>
      cases h
      obtain rfl := List.mem_singleton.mp hname
      exact ⟨rfl, hnone⟩
    next =>
      obtain ⟨text, -, rfl⟩ := Steps.map_eq_ok.mp h
      cases hname
  · cases h
    cases hname

/-- Filling a URL misses only parameters that have no argument. -/
theorem missing_of_fill {params : List Param} {url filled : List Char}
    {missing : List String}
    (h : fill given params url = .ok (filled, missing)) :
    ∀ name ∈ missing, ∃ p ∈ params, p.name = name
      ∧ argument? name given = none := by
  induction params generalizing url filled missing with
  | nil =>
      cases h
      intro name hname
      cases hname
  | cons p rest ih =>
      rw [fill_cons] at h
      obtain ⟨made, hmade, h⟩ := Steps.bind_eq_ok.mp h
      obtain ⟨more, hrest, hpair⟩ := Steps.map_eq_ok.mp h
      obtain ⟨rfl, rfl⟩ := Prod.mk.inj hpair
      intro name hname
      rcases List.mem_append.mp hname with hhere | hlater
      · exact ⟨p, List.mem_cons_self, missing_of_place hmade hhere⟩
      · obtain ⟨q, hq, hfound⟩ := ih hrest name hlater
        exact ⟨q, List.mem_cons_of_mem p hq, hfound⟩

/-- Nothing is missing in the URL if every parameter of the path has an
argument. -/
theorem url_complete {engine : Engine} {e : Endpoint}
    (hgiven : ∀ p ∈ e.pathParams, ∃ v, argument? p.name given = some v)
    {filled : List Char} {missing : List String}
    (h : engine.url e given = .ok (filled, missing)) : missing = [] := by
  refine List.eq_nil_iff_forall_not_mem.mpr fun name hname => ?_
  obtain ⟨p, hp, rfl, hnone⟩ := missing_of_fill h name hname
  obtain ⟨v, hv⟩ := hgiven p hp
  rw [hnone] at hv
  cases hv

/-- Arguments that JSON can hold make a content. -/
theorem content_eq_ok (method : String)
    (hform : Json.HasForm (.map given)) :
    ∃ made, content method given = .ok made := by
  unfold content
  split
  · exact ⟨none, rfl⟩
  next body hbody =>
    split
    · exact ⟨none, rfl⟩
    · have hentry := (argument?_eq_some_iff.mp hbody).1
      obtain ⟨text, htext⟩ :=
        Json.write_line_ok.mpr (Json.hasForm_of_entry? hform hentry)
      rw [htext]
      exact ⟨_, rfl⟩

/-- A call with an argument for every parameter of the path, all of which
JSON can hold, is planned as a request. -/
theorem plan_complete {engine : Engine} {e : Endpoint}
    (hgiven : ∀ p ∈ e.pathParams, ∃ v, argument? p.name given = some v)
    (hform : Json.HasForm (.map given)) {made : Plan}
    (h : engine.plan e (.map given) = .ok made) :
    ∃ request, made = .send request := by
  cases planned_of_plan h with
  | incomplete hurl => cases url_complete hgiven hurl
  | unwritable _ _ _ hcontent =>
      obtain ⟨text, htext⟩ :=
        content_eq_ok (String.ofList (Text.upper e.method.toList)) hform
      cases htext.symm.trans hcontent
  | request _ _ _ _ => exact ⟨_, rfl⟩

/-- Such a call has no outcome but that of a request. -/
theorem execute_complete {engine : Engine} {e : Endpoint}
    (hgiven : ∀ p ∈ e.pathParams, ∃ v, argument? p.name given = some v)
    (hform : Json.HasForm (.map given))
    {send : Request → Except Trouble Response} {o : Outcome}
    (h : engine.execute (m := Id) send e (.map given) = .ok o) :
    ∃ request, engine.plan e (.map given) = .ok (.send request)
      ∧ settle e request (send request) = .ok o := by
  unfold execute at h
  cases hplan : engine.plan e (.map given) with
  | error failure =>
      rw [hplan] at h
      cases h
  | ok made =>
      obtain ⟨request, rfl⟩ := plan_complete hgiven hform hplan
      rw [hplan] at h
      exact ⟨request, rfl, h⟩

end Toolsmith.Engine
