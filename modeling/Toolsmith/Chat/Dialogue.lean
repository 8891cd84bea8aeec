/-
Computations that ask the outside world on their way: a completion backend
for a reply, or an engine for the outcome of a call. A dialogue says what it
asks for next and how it goes on with the answer.
-/
import Toolsmith.Api.Outcome
import Toolsmith.Backend.Client
import Toolsmith.Chat.Verdict

namespace Toolsmith.Chat

/-- Where a conversation is in its turn. -/
inductive Phase where
  | idle
  | resolving
  | executing
  | responding
  deriving DecidableEq, Repr

/-- The word for a phase. -/
def Phase.name : Phase → String
  | idle => "idle"
  | resolving => "resolving"
  | executing => "executing"
  | responding => "responding"

/-- A request for a completion. -/
structure Question where
  prompt : Prompt
  sampling : Sampling
  deriving Repr

/-- A computation with questions to a backend and calls of an engine. -/
inductive Dialogue (α : Type) where
  | done (a : α)
  | ask (phase : Phase) (q : Question)
      (next : Except Failure String → Dialogue α)
  | execute (phase : Phase) (e : Endpoint) (arguments : Arguments)
      (next : Except Failure Outcome → Dialogue α)

namespace Dialogue

/-- One dialogue and then another one. -/
def bind {α β : Type} (d : Dialogue α) (f : α → Dialogue β) : Dialogue β :=
  match d with
  | done a => f a
  | ask phase q next => ask phase q fun answer => (next answer).bind f
  | execute phase e arguments next =>
    execute phase e arguments fun answer => (next answer).bind f

instance : Monad Dialogue where
  pure := done
  bind := bind

/-- The dialogue with everything in it asked for in one phase. -/
def during {α : Type} (phase : Phase) : Dialogue α → Dialogue α
  | done a => done a
  | ask _ q next => ask phase q fun answer => (next answer).during phase
  | execute _ e arguments next =>
    execute phase e arguments fun answer => (next answer).during phase

/-- Holds a dialogue with a backend and an engine. -/
def run {m : Type → Type} [Monad m] {α : Type}
    (backend : Phase → Question → m (Except Failure String))
    (engine : Phase → Endpoint → Arguments → m (Except Failure Outcome)) :
    Dialogue α → m α
  | done a => pure a
  | ask phase q next => do
    run backend engine (next (← backend phase q))
  | execute phase e arguments next => do
    run backend engine (next (← engine phase e arguments))

end Dialogue

end Toolsmith.Chat
