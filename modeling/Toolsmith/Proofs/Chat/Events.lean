/-
What happens in a dialogue. A dialogue asks and goes on with whatever comes
back, so what can happen in it is the list of its events: each question and
each call with its answer. `Yields` says that a dialogue comes to a result
by such a list, for any answers at all. That is neither more nor less than what
runs do: the notes of a run with any backend and engine are such a list, and
every such list is played back by a run.
-/
import Toolsmith.Chat.Conversation

namespace Toolsmith.Chat

/-- A question or a call, with the phase in which it was made and what came
back. -/
inductive Event where
  | asked (phase : Phase) (q : Question) (answer : Except Failure String)
  | called (phase : Phase) (e : Endpoint) (arguments : Arguments)
      (answer : Except Failure Outcome)

/-- The event is a question to the backend. -/
def Event.isQuestion : Event → Bool
  | asked _ _ _ => true
  | called _ _ _ _ => false

/-- The event is a call of the engine. -/
def Event.isCall (event : Event) : Bool := !event.isQuestion

namespace Dialogue

variable {α β : Type}

/-- The dialogue comes to a result by a list of events. -/
inductive Yields : Dialogue α → List Event → α → Prop where
  | done (a : α) : Yields (.done a) [] a
  | ask {phase : Phase} {q : Question}
      {next : Except Failure String → Dialogue α}
      {answer : Except Failure String} {events : List Event} {a : α}
      (h : Yields (next answer) events a) :
      Yields (.ask phase q next) (.asked phase q answer :: events) a
  | execute {phase : Phase} {e : Endpoint} {arguments : Arguments}
      {next : Except Failure Outcome → Dialogue α}
      {answer : Except Failure Outcome} {events : List Event} {a : α}
      (h : Yields (next answer) events a) :
      Yields (.execute phase e arguments next)
        (.called phase e arguments answer :: events) a

/-- What is over has no more events. -/
theorem yields_done {a b : α} {events : List Event} :
    (done a).Yields events b ↔ events = [] ∧ b = a := by
  constructor
  · intro h
    cases h
    exact ⟨rfl, rfl⟩
  · rintro ⟨rfl, rfl⟩
    exact .done b

/-- A question comes first. -/
theorem yields_ask {phase : Phase} {q : Question}
    {next : Except Failure String → Dialogue α} {events : List Event}
    {a : α} :
    (ask phase q next).Yields events a ↔ ∃ answer rest,
      events = .asked phase q answer :: rest
        ∧ (next answer).Yields rest a := by
  constructor
  · intro h
    cases h with
    | ask h => exact ⟨_, _, rfl, h⟩
  · rintro ⟨answer, rest, rfl, h⟩
    exact .ask h

/-- A call comes first. -/
theorem yields_execute {phase : Phase} {e : Endpoint}
    {arguments : Arguments} {next : Except Failure Outcome → Dialogue α}
    {events : List Event} {a : α} :
    (execute phase e arguments next).Yields events a ↔ ∃ answer rest,
      events = .called phase e arguments answer :: rest
        ∧ (next answer).Yields rest a := by
  constructor
  · intro h
    cases h with
    | execute h => exact ⟨_, _, rfl, h⟩
  · rintro ⟨answer, rest, rfl, h⟩
    exact .execute h

/-- One dialogue and then another: first the events of the one, then those of
the other. -/
theorem yields_bind {d : Dialogue α} {f : α → Dialogue β}
    {events : List Event} {b : β} :
    (d.bind f).Yields events b ↔ ∃ front back a, events = front ++ back
      ∧ d.Yields front a ∧ (f a).Yields back b := by
  induction d generalizing events with
  | done a =>
      constructor
      · intro h
        exact ⟨[], events, a, rfl, .done a, h⟩
      · rintro ⟨front, back, _, rfl, hfront, hback⟩
        obtain ⟨rfl, rfl⟩ := yields_done.mp hfront
        exact hback
  | ask phase q next ih =>
      constructor
      · intro h
        obtain ⟨answer, rest, rfl, hrest⟩ := yields_ask.mp h
        obtain ⟨front, back, a, rfl, hfront, hback⟩ := (ih answer).mp hrest
        exact ⟨_ :: front, back, a, rfl, .ask hfront, hback⟩
      · rintro ⟨front, back, a, rfl, hfront, hback⟩
        obtain ⟨answer, rest, rfl, hrest⟩ := yields_ask.mp hfront
        exact .ask ((ih answer).mpr ⟨rest, back, a, rfl, hrest, hback⟩)
  | execute phase e arguments next ih =>
      constructor
      · intro h
        obtain ⟨answer, rest, rfl, hrest⟩ := yields_execute.mp h
        obtain ⟨front, back, a, rfl, hfront, hback⟩ := (ih answer).mp hrest
        exact ⟨_ :: front, back, a, rfl, .execute hfront, hback⟩
      · rintro ⟨front, back, a, rfl, hfront, hback⟩
        obtain ⟨answer, rest, rfl, hrest⟩ := yields_execute.mp hfront
        exact .execute ((ih answer).mpr ⟨rest, back, a, rfl, hrest, hback⟩)

-- ================================================================= runs

section

variable {σ : Type}
  (backend : Phase → Question → StateM σ (Except Failure String))
  (engine : Phase → Endpoint → Arguments → StateM σ (Except Failure Outcome))

/-- The backend, with a note of every answer behind the notes so far. -/
def notedAnswer (phase : Phase) (q : Question) :
    StateM (σ × List Event) (Except Failure String) :=
  fun (world, notes) =>
    let (answer, after) := (backend phase q).run world
    (answer, (after, notes ++ [.asked phase q answer]))

/-- The engine, with a note of every outcome behind the notes so far. -/
def notedOutcome (phase : Phase) (e : Endpoint) (arguments : Arguments) :
    StateM (σ × List Event) (Except Failure Outcome) :=
  fun (world, notes) =>
    let (answer, after) := (engine phase e arguments).run world
    (answer, (after, notes ++ [.called phase e arguments answer]))

/-- Whatever backend and engine do, and whatever they keep in mind from one
question to the next: the notes of a run are events by which the dialogue
comes to the result of the run. -/
theorem yields_notes (d : Dialogue α) (world : σ) (notes : List Event) :
    let (a, after) := (d.run backend engine).run world
    ∃ events, d.Yields events a
      ∧ (d.run (notedAnswer backend) (notedOutcome engine)).run (world, notes)
        = (a, (after, notes ++ events)) := by
  induction d generalizing world notes with
  | done a =>
      refine ⟨[], .done a, ?_⟩
      rw [List.append_nil]
      rfl
  | ask phase q next ih =>
      obtain ⟨events, h, hnotes⟩ := ih ((backend phase q).run world).1
        ((backend phase q).run world).2
        (notes ++ [.asked phase q ((backend phase q).run world).1])
      rw [List.append_assoc] at hnotes
      exact ⟨_, .ask h, hnotes⟩
  | execute phase e arguments next ih =>
      obtain ⟨events, h, hnotes⟩ := ih ((engine phase e arguments).run world).1
        ((engine phase e arguments).run world).2
        (notes ++
          [.called phase e arguments ((engine phase e arguments).run world).1])
      rw [List.append_assoc] at hnotes
      exact ⟨_, .execute h, hnotes⟩

end

/-- Answers a question as the next event does. -/
def playAnswer (_ : Phase) (_ : Question) :
    StateM (List Event) (Except Failure String) := do
  match ← get with
  | .asked _ _ answer :: rest =>
    set rest
    return answer
  | _ => return .error (.outside "no answer")

/-- Has the outcome of a call as the next event does. -/
def playOutcome (_ : Phase) (_ : Endpoint) (_ : Arguments) :
    StateM (List Event) (Except Failure Outcome) := do
  match ← get with
  | .called _ _ _ answer :: rest =>
    set rest
    return answer
  | _ => return .error (.outside "no outcome")

/-- All events are followed by the run that plays them back. -/
theorem run_play {d : Dialogue α} {events : List Event} {a : α}
    (h : d.Yields events a) (more : List Event) :
    (d.run playAnswer playOutcome).run (events ++ more) = (a, more) := by
  induction h with
  | done a => rfl
  | ask _ ih => exact ih
  | execute _ ih => exact ih

end Dialogue

end Toolsmith.Chat
