/-
What a turn that is handed back tells of its call. The call and its outcome are
kept beside the reply, so they are told only with a reply of the backend. A
failure behind the call takes them along: what is handed back then is the bare
wording of the failure, even though the call was made and had an outcome.
-/
import Toolsmith.Proofs.Chat.Protocol

namespace Toolsmith.Chat.Conversation

variable {s : Server} {c after : Conversation} {utterance : String}
  {events : List Event}

/-- A call with an outcome was made. -/
def Called (events : List Event) : Prop :=
  ∃ phase e arguments o, .called phase e arguments (.ok o) ∈ events

/-- The backend has given the reply. -/
def Replied (events : List Event) : Prop :=
  ∃ q text, .asked .responding q (.ok text) ∈ events

/-- What an intent has performed is its only call, and no question. -/
theorem Performed.mem {i : Intent} {made : List Event}
    {performed : Option (Outcome × ExecutedCall)} {event : Event}
    (h : Performed i made performed) (hmem : event ∈ made) :
    ∃ phase e arguments o, event = .called phase e arguments (.ok o)
      ∧ performed = some (o, ⟨e.name, arguments⟩) := by
  cases h with
  | nothing htarget => cases hmem
  | call htarget =>
      exact ⟨_, _, _, _, List.mem_singleton.mp hmem, rfl⟩

/-- An intent that has performed something has made a call. -/
theorem Performed.called_iff {i : Intent} {made : List Event}
    {performed : Option (Outcome × ExecutedCall)}
    (h : Performed i made performed) :
    Called made ↔ performed.isSome = true := by
  constructor
  · rintro ⟨phase, e, arguments, o, hmem⟩
    obtain ⟨_, _, _, _, -, rfl⟩ := h.mem hmem
    rfl
  · intro hsome
    cases h with
    | nothing htarget => cases hsome
    | call htarget => exact ⟨_, _, _, _, List.mem_singleton_self _⟩

/-- The first question is not the one for the reply. -/
theorem ne_opening (answer : Except Failure String) (q : Question)
    (text : Except Failure String) :
    .asked .responding q text ≠ c.opening utterance answer := by
  intro h
  injection h with hphase
  cases hphase

/-- There is no reply in a course that fails. -/
theorem Course.not_replied {failure : Failure}
    (h : Course c utterance events (.error failure)) : ¬ Replied events := by
  rintro ⟨q, text, hmem⟩
  have hmade : ∀ {i made performed}, Performed i made performed →
      .asked .responding q (.ok text) ∉ made := by
    intro i made performed hperformed hasked
    obtain ⟨_, _, _, _, hevent, -⟩ := hperformed.mem hasked
    cases hevent
  cases h with
  | unheard => exact ne_opening _ _ _ (List.mem_singleton.mp hmem)
  | unread _ => exact ne_opening _ _ _ (List.mem_singleton.mp hmem)
  | unperformed _ _ =>
      rcases List.mem_cons.mp hmem with hfirst | hcall
      · exact ne_opening _ _ _ hfirst
      · cases List.mem_singleton.mp hcall
  | unasked _ hperformed _ =>
      rcases List.mem_cons.mp hmem with hfirst | hcall
      · exact ne_opening _ _ _ hfirst
      · exact hmade hperformed hcall
  | unanswered _ hperformed _ =>
      rcases List.mem_append.mp hmem with hfront | hlast
      · rcases List.mem_cons.mp hfront with hfirst | hcall
        · exact ne_opening _ _ _ hfirst
        · exact hmade hperformed hcall
      · cases List.mem_singleton.mp hlast

/-- A course that comes to a reply has it among its events, and tells exactly
the call that it made. -/
theorem Course.told {turn : Turn}
    (h : Course c utterance events (.ok turn)) :
    Replied events ∧ (Called events ↔ turn.call.isSome = true)
      ∧ (turn.call = none → turn.outcome = none)
      ∧ ∀ phase e arguments o,
        .called phase e arguments (.ok o) ∈ events →
        turn.call = some ⟨e.name, arguments⟩ ∧ turn.outcome = some o := by
  cases h with
  | @answered reply text i made performed q _ hperformed _ =>
      -- the calls of the course are those of the intent
      have hcalls : ∀ phase e arguments (o : Outcome),
          .called phase e arguments (.ok o)
              ∈ c.opening utterance (.ok reply) :: made
                ++ [.asked .responding q (.ok text)]
            ↔ .called phase e arguments (.ok o) ∈ made := by
        intro phase e arguments o
        constructor
        · intro hmem
          rcases List.mem_append.mp hmem with hfront | hlast
          · rcases List.mem_cons.mp hfront with hfirst | hcall
            · cases hfirst
            · exact hcall
          · cases List.mem_singleton.mp hlast
        · intro hcall
          exact List.mem_append_left _ (List.mem_cons_of_mem _ hcall)
      refine ⟨⟨q, text, List.mem_append_right _ (List.mem_singleton_self _)⟩,
        ?_, ?_, ?_⟩
      · rw [Option.isSome_map, ← hperformed.called_iff]
        unfold Called
        simp only [hcalls]
      · intro hnone
        rw [Option.map_eq_none_iff.mp hnone]
        rfl
      · intro phase e arguments o hmem
        obtain ⟨_, _, _, _, hevent, rfl⟩ :=
          hperformed.mem ((hcalls phase e arguments o).mp hmem)
        cases hevent
        exact ⟨rfl, rfl⟩

/-- What a turn that is handed back tells of its call, whatever the backend
and the engine do in it. It tells a call exactly if one was made and had an
outcome and the backend has given the reply; then it tells that call and
its outcome. Without a call it tells no outcome. Without a reply it is the
bare wording of a failure. -/
theorem report_of_send {turn : Turn}
    (h : (c.send utterance).Yields events (after, .ok turn)) :
    (turn.call.isSome = true ↔ Called events ∧ Replied events)
      ∧ (Replied events → ∀ phase e arguments o,
          .called phase e arguments (.ok o) ∈ events →
          turn.call = some ⟨e.name, arguments⟩ ∧ turn.outcome = some o)
      ∧ (turn.call = none → turn.outcome = none)
      ∧ (¬ Replied events → ∃ failure : Failure,
          turn = ⟨"Error: " ++ failure.message, none, none⟩) := by
  obtain ⟨outcome, hcourse, -, hresult⟩ := remarks_of_send h
  cases outcome with
  | ok told =>
      cases hresult
      obtain ⟨hreplied, hcalled, hnone, hsame⟩ := hcourse.told
      exact ⟨⟨fun hsome => ⟨hcalled.mpr hsome, hreplied⟩,
          fun hboth => hcalled.mp hboth.1⟩,
        fun _ => hsame, hnone, fun hnot => absurd hreplied hnot⟩
  | error failure =>
      have hnot := hcourse.not_replied
      rcases settle_snd (c.enter .idle) utterance failure with
        ⟨-, hsettled⟩ | ⟨-, hsettled⟩
      · rw [hsettled] at hresult
        cases hresult
      · rw [hsettled] at hresult
        cases hresult
        exact ⟨⟨fun hsome => (by cases hsome),
            fun hboth => absurd hboth.2 hnot⟩,
          fun hreplied => absurd hreplied hnot, fun _ => rfl,
          fun _ => ⟨failure, rfl⟩⟩

/-- A turn that calls and comes to a reply tells both the call and its
outcome. -/
theorem report_of_send_answered :
    ∃ events after turn arguments,
      ((start users).send "Get user 7").Yields events (after, .ok turn)
        ∧ turn.call = some ⟨"getUser", arguments⟩
        ∧ turn.outcome = some found := by
  obtain ⟨i, arguments, q, hread, hmade, hquestion⟩ :=
    exists_performed_pathed (c := start users) "Get user 7" rfl
  have hsend := send_of_course
    (Course.answered hread hmade hquestion :
      Course (start users) "Get user 7" _ (.ok ⟨"User 7 it is.", _, _⟩))
  obtain ⟨-, htold, -⟩ := report_of_send hsend
  obtain ⟨hcall, houtcome⟩ :=
    htold ⟨q, _, List.mem_append_right _ (List.mem_singleton_self _)⟩
      .executing pathed arguments found
      (List.mem_append_left _ (List.mem_cons_of_mem _
        (List.mem_singleton_self _)))
  exact ⟨_, _, _, arguments, hsend, hcall, houtcome⟩

/-- A call that had an outcome is not told when the backend fails behind
it. -/
theorem not_forall_called_told :
    ¬ ∀ s c, Reached s c → ∀ utterance events after turn,
      (c.send utterance).Yields events (after, .ok turn) →
      (turn.call.isSome = true ↔ Called events) := by
  intro hall
  obtain ⟨i, arguments, q, hread, hmade, hquestion⟩ :=
    exists_performed_pathed (c := start users) "Get user 7" rfl
  have hsend := send_of_course
    (Course.unanswered hread hmade hquestion :
      Course (start users) "Get user 7" _ (.error (.completion "down")))
  have htold := hall users _ .start _ _ _ _ hsend
  cases htold.mpr ⟨.executing, pathed, arguments, found,
    List.mem_append_left _ (List.mem_cons_of_mem _
      (List.mem_singleton_self _))⟩

end Toolsmith.Chat.Conversation
