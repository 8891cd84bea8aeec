/-
The course of a turn, from the first question to what is recorded. A turn can
fail at every place where something from outside comes in, and where the
message about the API is made: the backend fails or its reply cannot be read,
the call fails, the outcome cannot be shown, or the backend fails again. Every
course is one of these, or comes to a reply. What is known about turns is read
off the courses, case by case, without a look into the turn itself.
-/
import Toolsmith.Proofs.Chat.Events
import Toolsmith.Proofs.Steps

namespace Toolsmith.Chat.Conversation

open Dialogue

-- ============================================================== courses

/-- The events of the call that an intent wants, if it wants one and the call
has an outcome. -/
inductive Performed (intent : Intent) :
    List Event → Option (Outcome × ExecutedCall) → Prop where
  | nothing (h : intent.target = none) : Performed intent [] none
  | call {e : Endpoint} {arguments : Arguments} {outcome : Outcome}
      (h : intent.target = some (e, arguments)) :
      Performed intent [.called .executing e arguments (.ok outcome)]
        (some (outcome, ⟨e.name, arguments⟩))

/-- The question what an utterance wants, with its answer. -/
def opening (c : Conversation) (utterance : String)
    (answer : Except Failure String) : Event :=
  .asked .resolving (analysisQuestion c.server.endpoints utterance) answer

/-- The events of a turn and what they come to. -/
inductive Course (c : Conversation) (utterance : String) :
    List Event → Except Failure Turn → Prop where
  /-- The backend fails. -/
  | unheard {failure : Failure} :
      Course c utterance [c.opening utterance (.error failure)]
        (.error failure)
  /-- The reply of the backend cannot be read. -/
  | unread {reply : String} {failure : Failure}
      (h : Intent.ofReply c.server.endpoints reply = .error failure) :
      Course c utterance [c.opening utterance (.ok reply)] (.error failure)
  /-- The call fails. -/
  | unperformed {reply : String} {intent : Intent} {e : Endpoint}
      {arguments : Arguments} {failure : Failure}
      (h : Intent.ofReply c.server.endpoints reply = .ok intent)
      (htarget : intent.target = some (e, arguments)) :
      Course c utterance
        [c.opening utterance (.ok reply),
         .called .executing e arguments (.error failure)]
        (.error failure)
  /-- The message about the API cannot be made. -/
  | unasked {reply : String} {intent : Intent} {made : List Event}
      {performed : Option (Outcome × ExecutedCall)} {failure : Failure}
      (h : Intent.ofReply c.server.endpoints reply = .ok intent)
      (hmade : Performed intent made performed)
      (hquestion : c.replyQuestion (performed.map (·.1)) utterance
        = .error failure) :
      Course c utterance (c.opening utterance (.ok reply) :: made)
        (.error failure)
  /-- The backend fails at the reply. -/
  | unanswered {reply : String} {intent : Intent} {made : List Event}
      {performed : Option (Outcome × ExecutedCall)} {q : Question}
      {failure : Failure}
      (h : Intent.ofReply c.server.endpoints reply = .ok intent)
      (hmade : Performed intent made performed)
      (hquestion : c.replyQuestion (performed.map (·.1)) utterance = .ok q) :
      Course c utterance
        (c.opening utterance (.ok reply) :: made
          ++ [.asked .responding q (.error failure)])
        (.error failure)
  /-- The turn comes to a reply. -/
  | answered {reply text : String} {intent : Intent} {made : List Event}
      {performed : Option (Outcome × ExecutedCall)} {q : Question}
      (h : Intent.ofReply c.server.endpoints reply = .ok intent)
      (hmade : Performed intent made performed)
      (hquestion : c.replyQuestion (performed.map (·.1)) utterance = .ok q) :
      Course c utterance
        (c.opening utterance (.ok reply) :: made
          ++ [.asked .responding q (.ok text)])
        (.ok ⟨text, performed.map (·.1), performed.map (·.2)⟩)

variable {c after : Conversation} {utterance : String} {events : List Event}

-- =========================================================== the stages

/-- The intent is what the answer to the first question reads as. -/
theorem yields_resolve {phase : Phase} {endpoints : List Endpoint}
    {intent : Except Failure Intent} :
    ((resolve endpoints utterance).during phase).Yields events intent
      ↔ ∃ answer,
        events = [.asked phase (analysisQuestion endpoints utterance) answer]
          ∧ intent = answer >>= Intent.ofReply endpoints := by
  constructor
  · intro h
    obtain ⟨answer, rest, rfl, hrest⟩ := yields_ask.mp h
    obtain ⟨rfl, rfl⟩ := yields_done.mp hrest
    exact ⟨answer, rfl, rfl⟩
  · rintro ⟨answer, rfl, rfl⟩
    exact .ask (.done _)

/-- The call of an intent has an outcome, or fails, or is not made. -/
theorem yields_perform {intent : Intent}
    {result : Except Failure (Option (Outcome × ExecutedCall))}
    (h : (c.perform intent).Yields events (after, result)) :
    (∃ phase, after = c.enter phase)
      ∧ ((∃ performed, result = .ok performed
            ∧ Performed intent events performed)
        ∨ ∃ failure e arguments, result = .error failure
            ∧ intent.target = some (e, arguments)
            ∧ events = [.called .executing e arguments (.error failure)]) := by
  unfold perform at h
  split at h
  next htarget =>
    obtain ⟨rfl, hout⟩ := yields_done.mp h
    cases hout
    exact ⟨⟨c.phase, rfl⟩, Or.inl ⟨none, rfl, .nothing htarget⟩⟩
  next e arguments htarget =>
    obtain ⟨answer, rest, rfl, hrest⟩ := yields_execute.mp h
    obtain ⟨rfl, hout⟩ := yields_done.mp hrest
    cases hout
    refine ⟨⟨.executing, rfl⟩, ?_⟩
    cases answer with
    | error failure =>
        exact Or.inr ⟨failure, e, arguments, rfl, htarget, rfl⟩
    | ok outcome => exact Or.inl ⟨_, rfl, .call htarget⟩

/-- The question for a reply does not depend on the phase. -/
@[simp]
theorem replyQuestion_enter (phase : Phase) (outcome : Option Outcome) :
    (c.enter phase).replyQuestion outcome utterance
      = c.replyQuestion outcome utterance :=
  rfl

/-- Without a question there is no reply. -/
theorem respond_of_error {performed : Option (Outcome × ExecutedCall)}
    {failure : Failure} (h : c.replyQuestion (performed.map (·.1)) utterance
      = .error failure) :
    c.respond utterance (.ok performed)
      = .done (c.enter .responding, .error failure) := by
  unfold respond
  dsimp only
  rw [replyQuestion_enter, h]

/-- The question for a reply is asked once. -/
theorem respond_of_ok {performed : Option (Outcome × ExecutedCall)}
    {q : Question}
    (h : c.replyQuestion (performed.map (·.1)) utterance = .ok q) :
    c.respond utterance (.ok performed)
      = .ask .responding q fun answer =>
        .done (c.enter .responding, answer.map fun reply =>
          ⟨reply, performed.map (·.1), performed.map (·.2)⟩) := by
  unfold respond
  dsimp only
  rw [replyQuestion_enter, h]
  rfl

/-- The reply is asked for once, unless the question cannot be made. -/
theorem yields_respond {performed : Option (Outcome × ExecutedCall)}
    {result : Except Failure Turn}
    (h : (c.respond utterance (.ok performed)).Yields events (after, result)) :
    after = c.enter .responding
      ∧ ((∃ failure, events = [] ∧ result = .error failure
            ∧ c.replyQuestion (performed.map (·.1)) utterance
              = .error failure)
        ∨ ∃ q answer, events = [.asked .responding q answer]
            ∧ c.replyQuestion (performed.map (·.1)) utterance = .ok q
            ∧ result = answer.map fun reply =>
              ⟨reply, performed.map (·.1), performed.map (·.2)⟩) := by
  cases hquestion : c.replyQuestion (performed.map (·.1)) utterance with
  | error failure =>
      rw [respond_of_error hquestion] at h
      obtain ⟨rfl, hout⟩ := yields_done.mp h
      cases hout
      exact ⟨rfl, Or.inl ⟨failure, rfl, rfl, rfl⟩⟩
  | ok q =>
      rw [respond_of_ok hquestion] at h
      obtain ⟨answer, rest, rfl, hrest⟩ := yields_ask.mp h
      obtain ⟨rfl, hout⟩ := yields_done.mp hrest
      cases hout
      exact ⟨rfl, Or.inr ⟨q, answer, rfl, rfl, rfl⟩⟩

-- ============================================================= the turn

/-- A turn takes a course. It changes nothing in the conversation but the
phase. -/
theorem course_of_runTurn {result : Except Failure Turn}
    (h : (c.runTurn utterance).Yields events (after, result)) :
    Course c utterance events result ∧ ∃ phase, after = c.enter phase := by
  unfold runTurn at h
  obtain ⟨front, back, intent, rfl, hresolve, hpursue⟩ := yields_bind.mp h
  obtain ⟨answer, rfl, hintent⟩ := yields_resolve.mp hresolve
  cases intent with
  | error failure =>
      obtain ⟨rfl, hout⟩ := yields_done.mp hpursue
      cases hout
      refine ⟨?_, .resolving, rfl⟩
      rcases Steps.bind_eq_error.mp hintent.symm with rfl | ⟨reply, rfl, hread⟩
      · exact .unheard
      · exact .unread hread
  | ok intent =>
      obtain ⟨reply, rfl, hread⟩ := Steps.bind_eq_ok.mp hintent.symm
      obtain ⟨made, last, ⟨mid, performed⟩, rfl, hperform, hrespond⟩ :=
        yields_bind.mp hpursue
      obtain ⟨⟨phase, rfl⟩, hperformed⟩ := yields_perform hperform
      rcases hperformed with ⟨performed, rfl, hmade⟩
        | ⟨failure, e, arguments, rfl, htarget, rfl⟩
      · obtain ⟨rfl, hreply⟩ := yields_respond hrespond
        refine ⟨?_, .responding, rfl⟩
        rcases hreply with ⟨failure, rfl, rfl, hquestion⟩
          | ⟨q, answer, rfl, hquestion, rfl⟩
        · rw [List.append_nil]
          exact .unasked hread hmade hquestion
        · cases answer with
          | error failure => exact .unanswered hread hmade hquestion
          | ok text => exact .answered hread hmade hquestion
      · obtain ⟨rfl, hout⟩ := yields_done.mp hrespond
        cases hout
        exact ⟨.unperformed hread htarget, phase, rfl⟩

/-- The call of an intent can have any outcome. -/
theorem perform_of_performed {intent : Intent}
    {performed : Option (Outcome × ExecutedCall)}
    (h : Performed intent events performed) :
    ∃ phase,
      (c.perform intent).Yields events (c.enter phase, .ok performed) := by
  unfold perform
  cases h with
  | nothing htarget =>
      rw [htarget]
      exact ⟨c.phase, .done _⟩
  | call htarget =>
      rw [htarget]
      exact ⟨.executing, .execute (.done _)⟩

/-- Every course can be taken. -/
theorem runTurn_of_course {result : Except Failure Turn}
    (h : Course c utterance events result) :
    ∃ phase, (c.runTurn utterance).Yields events (c.enter phase, result) := by
  have hopening : ∀ {answer intent},
      answer >>= Intent.ofReply c.server.endpoints = intent →
      ((resolve c.server.endpoints utterance).during .resolving).Yields
        [c.opening utterance answer] intent :=
    fun {answer _} hread => yields_resolve.mpr ⟨answer, rfl, hread.symm⟩
  -- with an intent, and perhaps its call, a turn goes on with the reply
  have hreply : ∀ {reply intent made performed last},
      Intent.ofReply c.server.endpoints reply = .ok intent →
      Performed intent made performed →
      (∀ phase, ((c.enter phase).respond utterance (.ok performed)).Yields
        last (c.enter .responding, result)) →
      (c.runTurn utterance).Yields
        (c.opening utterance (.ok reply) :: made ++ last)
        (c.enter .responding, result) := by
    intro reply intent made performed last hread hmade hrespond
    obtain ⟨phase, hperform⟩ :=
      perform_of_performed (c := c.enter .resolving) hmade
    exact yields_bind.mpr ⟨[_], made ++ last, .ok intent, rfl,
      hopening (Steps.bind_eq_ok.mpr ⟨reply, rfl, hread⟩),
      yields_bind.mpr ⟨made, last, _, rfl, hperform, hrespond phase⟩⟩
  cases h with
  | @unheard failure =>
      exact ⟨.resolving, yields_bind.mpr ⟨[_], [], .error failure, rfl,
        hopening rfl, .done _⟩⟩
  | @unread reply failure hread =>
      exact ⟨.resolving, yields_bind.mpr ⟨[_], [], .error failure, rfl,
        hopening (Steps.bind_eq_error.mpr (Or.inr ⟨reply, rfl, hread⟩)),
        .done _⟩⟩
  | @unperformed reply intent e arguments failure hread htarget =>
      refine ⟨.executing, yields_bind.mpr ⟨[_], [_], .ok intent, rfl,
        hopening (Steps.bind_eq_ok.mpr ⟨reply, rfl, hread⟩),
        yields_bind.mpr ⟨[_], [], (c.enter .executing, .error failure), rfl,
          ?_, .done _⟩⟩⟩
      unfold perform
      rw [htarget]
      exact .execute (.done _)
  | unasked hread hmade hquestion =>
      refine ⟨.responding, ?_⟩
      rw [← List.append_nil (_ :: _)]
      refine hreply hread hmade fun phase => ?_
      rw [respond_of_error (c := c.enter phase) hquestion]
      exact .done _
  | unanswered hread hmade hquestion =>
      refine ⟨.responding, hreply hread hmade fun phase => ?_⟩
      rw [respond_of_ok (c := c.enter phase) hquestion]
      exact .ask (.done _)
  | answered hread hmade hquestion =>
      refine ⟨.responding, hreply hread hmade fun phase => ?_⟩
      rw [respond_of_ok (c := c.enter phase) hquestion]
      exact .ask (.done _)

/-- Sending takes a course and settles what it comes to, idle again. -/
theorem course_of_send {result : Except Failure Turn}
    (h : (c.send utterance).Yields events (after, result)) :
    ∃ outcome, Course c utterance events outcome
      ∧ (after, result) = (c.enter .idle).settle utterance outcome := by
  unfold send at h
  obtain ⟨front, back, ⟨mid, outcome⟩, rfl, hturn, hsettle⟩ :=
    yields_bind.mp h
  obtain ⟨hcourse, phase, rfl⟩ := course_of_runTurn hturn
  obtain ⟨rfl, hout⟩ := yields_done.mp hsettle
  rw [List.append_nil]
  exact ⟨outcome, hcourse, hout⟩

/-- What every course comes to can be sent for. -/
theorem send_of_course {outcome : Except Failure Turn}
    (h : Course c utterance events outcome) :
    (c.send utterance).Yields events
      ((c.enter .idle).settle utterance outcome) := by
  obtain ⟨phase, hturn⟩ := runTurn_of_course h
  exact yields_bind.mpr ⟨events, [], _, (List.append_nil _).symm, hturn,
    .done _⟩

end Toolsmith.Chat.Conversation
