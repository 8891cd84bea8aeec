/-
Conversations about servers that differ in nothing but their credentials.

Two dialogues are alike if they ask the same things in the same phases and,
whatever comes back, go on alike and end in results that are. Alike dialogues
cannot be told apart from outside: held with alike worlds they leave alike
worlds behind. So it is enough to go through the steps of a turn once and see
that none of them looks at the credentials of its server.
-/
import Toolsmith.Chat.Conversation

namespace Toolsmith.Chat

-- ======================================================== computations

section

variable {α β γ δ σ : Type}

/-- In worlds that belong together the computations have results that do, and
leave such worlds behind. -/
def Agree (W : σ → σ → Prop) (R : α → β → Prop) (x : StateM σ α)
    (y : StateM σ β) : Prop :=
  ∀ w w', W w w' →
    R (x.run w).1 (y.run w').1 ∧ W (x.run w).2 (y.run w').2

variable {W : σ → σ → Prop} {R : α → β → Prop} {S : γ → δ → Prop}

theorem Agree.pure {a : α} {b : β} (h : R a b) :
    Agree W R (pure a) (pure b) :=
  fun _ _ hw => ⟨h, hw⟩

/-- One computation and then another, on both sides. -/
theorem Agree.bind {x : StateM σ α} {y : StateM σ β} (h : Agree W R x y)
    {f : α → StateM σ γ} {g : β → StateM σ δ}
    (hf : ∀ a b, R a b → Agree W S (f a) (g b)) :
    Agree W S (x >>= f) (y >>= g) := by
  intro w w' hw
  obtain ⟨hresult, hworld⟩ := h w w' hw
  exact hf _ _ hresult _ _ hworld

/-- The same computation and then another, if the results are one. -/
theorem Agree.bind_eq {x y : StateM σ α} (h : Agree W Eq x y)
    {f : α → StateM σ γ} {g : α → StateM σ δ}
    (hf : ∀ a, Agree W S (f a) (g a)) : Agree W S (x >>= f) (y >>= g) :=
  h.bind fun a _ heq => heq ▸ hf a

end

-- =========================================================== dialogues

namespace Dialogue

variable {α β γ δ σ : Type}

/-- The dialogues ask for the same, and with the same answers they come to
results that belong together. -/
inductive Alike (R : α → β → Prop) : Dialogue α → Dialogue β → Prop where
  | done {a : α} {b : β} (h : R a b) : Alike R (.done a) (.done b)
  | ask {phase : Phase} {q : Question}
      {next : Except Failure String → Dialogue α}
      {next' : Except Failure String → Dialogue β}
      (h : ∀ answer, Alike R (next answer) (next' answer)) :
      Alike R (.ask phase q next) (.ask phase q next')
  | execute {phase : Phase} {e : Endpoint} {arguments : Arguments}
      {next : Except Failure Outcome → Dialogue α}
      {next' : Except Failure Outcome → Dialogue β}
      (h : ∀ answer, Alike R (next answer) (next' answer)) :
      Alike R (.execute phase e arguments next)
        (.execute phase e arguments next')

/-- A dialogue is like itself. -/
theorem Alike.refl (d : Dialogue α) : Alike Eq d d := by
  induction d with
  | done a => exact .done rfl
  | ask _ _ _ ih => exact .ask ih
  | execute _ _ _ _ ih => exact .execute ih

/-- Alike dialogues go on alike if alike dialogues go on with their results. -/
theorem Alike.bind {R : α → β → Prop} {S : γ → δ → Prop} {d : Dialogue α}
    {d' : Dialogue β} (h : Alike R d d') {f : α → Dialogue γ}
    {f' : β → Dialogue δ} (hf : ∀ a b, R a b → Alike S (f a) (f' b)) :
    Alike S (d.bind f) (d'.bind f') := by
  induction h with
  | done h => exact hf _ _ h
  | ask _ ih => exact .ask ih
  | execute _ ih => exact .execute ih

/-- Alike dialogues are held alike with backends and engines that answer
alike. -/
theorem Alike.run {R : α → β → Prop} {W : σ → σ → Prop} {d : Dialogue α}
    {d' : Dialogue β} (h : Alike R d d')
    {backend backend' : Phase → Question → StateM σ (Except Failure String)}
    {engine engine' : Phase → Endpoint → Arguments →
      StateM σ (Except Failure Outcome)}
    (hbackend : ∀ phase q, Agree W Eq (backend phase q) (backend' phase q))
    (hengine : ∀ phase e arguments,
      Agree W Eq (engine phase e arguments) (engine' phase e arguments)) :
    Agree W R (d.run backend engine) (d'.run backend' engine') := by
  induction h with
  | done h => exact .pure h
  | ask _ ih => exact (hbackend _ _).bind_eq ih
  | execute _ ih => exact (hengine _ _ _).bind_eq ih

end Dialogue

-- ======================================================= conversations

namespace Conversation

/-- The conversations differ in nothing but the credentials of the server that
they are about. -/
structure Alike (c c' : Conversation) : Prop where
  server : c.server.withAuth none = c'.server.withAuth none
  remarks : c.remarks = c'.remarks
  phase : c.phase = c'.phase

/-- The results are one, and the conversations are alike. -/
def SameResult {α : Type} (made made' : Conversation × α) : Prop :=
  made.1.Alike made'.1 ∧ made.2 = made'.2

variable {c c' : Conversation}

theorem Alike.enter (h : c.Alike c') (phase : Phase) :
    (c.enter phase).Alike (c'.enter phase) :=
  ⟨h.server, h.remarks, rfl⟩

theorem Alike.clear (h : c.Alike c') : c.clear.Alike c'.clear :=
  ⟨h.server, rfl, h.phase⟩

theorem Alike.record (h : c.Alike c') (utterance reply : String) :
    (c.record utterance reply).Alike (c'.record utterance reply) :=
  ⟨h.server, congrArg (· ++ _) h.remarks, h.phase⟩

/-- Alike conversations are about the same endpoints. -/
theorem Alike.endpoints (h : c.Alike c') :
    c.server.endpoints = c'.server.endpoints := by
  show (c.server.withAuth none).endpoints = (c'.server.withAuth none).endpoints
  rw [h.server]

/-- The message about an API has no credentials in it. -/
theorem systemMessage_withAuth (s : Server) (auth : Option Auth)
    (outcome : Option Outcome) :
    systemMessage (s.withAuth auth) outcome = systemMessage s outcome := by
  cases outcome <;> rfl

/-- Nor has the question for a reply. -/
theorem Alike.replyQuestion (h : c.Alike c') (outcome : Option Outcome)
    (utterance : String) :
    c.replyQuestion outcome utterance
      = c'.replyQuestion outcome utterance := by
  unfold Conversation.replyQuestion recent history
  rw [← systemMessage_withAuth c.server none, h.server,
    systemMessage_withAuth, h.remarks]

/-- Alike conversations make the call of an intent alike. -/
theorem Alike.perform (h : c.Alike c') (intent : Intent) :
    (c.perform intent).Alike SameResult (c'.perform intent) := by
  unfold Conversation.perform
  cases intent.target with
  | none => exact .done ⟨h, rfl⟩
  | some wanted => exact .execute fun answer => .done ⟨h.enter _, rfl⟩

/-- Alike conversations ask for the reply alike. -/
theorem Alike.respond (h : c.Alike c') (utterance : String)
    (performed : Except Failure (Option (Outcome × ExecutedCall))) :
    (c.respond utterance performed).Alike SameResult
      (c'.respond utterance performed) := by
  unfold Conversation.respond
  cases performed with
  | error failure => exact .done ⟨h, rfl⟩
  | ok performed =>
      have hquestion := (h.enter .responding).replyQuestion
        (performed.map (·.1)) utterance
      dsimp only
      rw [hquestion]
      cases (c'.enter .responding).replyQuestion (performed.map (·.1))
          utterance with
      | error failure => exact .done ⟨h.enter _, rfl⟩
      | ok q => exact .ask fun answer => .done ⟨h.enter _, rfl⟩

/-- Alike conversations go on with an intent alike. -/
theorem Alike.pursue (h : c.Alike c') (utterance : String)
    (intent : Except Failure Intent) :
    (c.pursue utterance intent).Alike SameResult
      (c'.pursue utterance intent) := by
  cases intent with
  | error failure => exact .done ⟨h, rfl⟩
  | ok intent =>
      refine (h.perform intent).bind ?_
      rintro ⟨made, performed⟩ ⟨made', performed'⟩ ⟨hmade, rfl⟩
      exact hmade.respond utterance performed

/-- Alike conversations have alike turns. -/
theorem Alike.runTurn (h : c.Alike c') (utterance : String) :
    (c.runTurn utterance).Alike SameResult (c'.runTurn utterance) := by
  unfold Conversation.runTurn
  have hendpoints := (h.enter .resolving).endpoints
  dsimp only
  rw [hendpoints]
  refine (Dialogue.Alike.refl _).bind ?_
  rintro intent _ rfl
  exact (h.enter .resolving).pursue utterance intent

/-- Alike conversations are recorded alike. -/
theorem Alike.settle (h : c.Alike c') (utterance : String)
    (result : Except Failure Turn) :
    SameResult (c.settle utterance result) (c'.settle utterance result) := by
  cases result with
  | ok turn => exact ⟨h.record _ _, rfl⟩
  | error failure => cases failure <;> exact ⟨h.record _ _, rfl⟩

/-- Alike conversations hear an utterance alike. -/
theorem Alike.send (h : c.Alike c') (utterance : String) :
    (c.send utterance).Alike SameResult (c'.send utterance) := by
  refine (h.runTurn utterance).bind ?_
  rintro ⟨made, result⟩ ⟨made', result'⟩ ⟨hmade, rfl⟩
  exact .done ((hmade.enter .idle).settle utterance result)

end Conversation

end Toolsmith.Chat
