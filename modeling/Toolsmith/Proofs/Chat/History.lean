/-
What is kept of a conversation over a run of any length. Each turn is
recorded once, with the utterance in front of the reply, however the turn
ends; clearing takes everything away. So between two steps the conversation
is idle, and its remarks are an even number in which user and assistant take
turns, the user first. That is what makes the past in front of a reply well
formed: an even number of remarks off the front leaves a list that begins with
the user again.
-/
import Toolsmith.Proofs.Chat.Turn

namespace Toolsmith.Chat.Conversation

-- ========================================================= taking turns

/-- The user speaks first, and then the two take turns. -/
def TakesTurns (remarks : List Remark) : Prop :=
  ∀ i r, remarks[i]? = some r → (r.speaker = .user ↔ i % 2 = 0)

theorem takesTurns_nil : TakesTurns [] := by
  intro i r h
  cases h

/-- A turn behind complete turns goes on with them. -/
theorem TakesTurns.append_turn {remarks : List Remark}
    (h : TakesTurns remarks) (heven : remarks.length % 2 = 0)
    (utterance reply : String) :
    TakesTurns
      (remarks ++ [⟨.user, utterance⟩, ⟨.assistant, reply⟩]) := by
  intro i r hr
  by_cases hlt : i < remarks.length
  · rw [List.getElem?_append_left hlt] at hr
    exact h i r hr
  · obtain ⟨k, rfl⟩ := Nat.exists_eq_add_of_le (Nat.le_of_not_lt hlt)
    rw [List.getElem?_append_right (Nat.le_add_right _ _),
      Nat.add_sub_cancel_left] at hr
    match k, hr with
    | 0, hr =>
        cases hr
        exact ⟨fun _ => heven, fun _ => rfl⟩
    | 1, hr =>
        cases hr
        refine ⟨fun huser => (by cases huser), fun hindex => ?_⟩
        omega

/-- An even number of remarks off the front leaves the turns. -/
theorem TakesTurns.drop {remarks : List Remark} (h : TakesTurns remarks)
    {n : Nat} (heven : n % 2 = 0) : TakesTurns (remarks.drop n) := by
  intro i r hr
  rw [List.getElem?_drop] at hr
  rw [h (n + i) r hr]
  omega

-- ================================================================= runs

/-- The conversations about a server that sending and clearing lead to,
whatever the backend and the engine answer. -/
inductive Reached (s : Server) : Conversation → Prop where
  | start : Reached s (.start s)
  | send {c after : Conversation} {utterance : String} {events : List Event}
      {result : Except Failure Turn} (h : Reached s c)
      (hsend : (c.send utterance).Yields events (after, result)) :
      Reached s after
  | clear {c : Conversation} (h : Reached s c) : Reached s c.clear

/-- The conversation stands between two turns. -/
structure Settled (s : Server) (c : Conversation) : Prop where
  server : c.server = s
  idle : c.phase = .idle
  even : c.remarks.length % 2 = 0
  turns : TakesTurns c.remarks

/-- What is recorded as the reply of a turn. -/
def spoken : Except Failure Turn → String
  | .ok turn => turn.reply
  | .error failure => errorReply failure

/-- A turn is recorded once, whatever it comes to. -/
theorem settle_fst (c : Conversation) (utterance : String)
    (outcome : Except Failure Turn) :
    (c.settle utterance outcome).1 = c.record utterance (spoken outcome) := by
  cases outcome with
  | ok turn => rfl
  | error failure => cases failure <;> rfl

/-- A failure is handed on only if it refuses the credentials; any other
failure is the reply of a turn without a call. -/
theorem settle_snd (c : Conversation) (utterance : String)
    (failure : Failure) :
    ((∃ m, failure = .authentication m)
        ∧ (c.settle utterance (.error failure)).2 = .error failure)
      ∨ (¬ ∃ m, failure = .authentication m)
        ∧ (c.settle utterance (.error failure)).2
          = .ok ⟨errorReply failure, none, none⟩ := by
  cases failure with
  | authentication m => exact Or.inl ⟨⟨m, rfl⟩, rfl⟩
  | _ => exact Or.inr ⟨fun ⟨_, h⟩ => (by cases h), rfl⟩

variable {s : Server} {c after : Conversation} {utterance : String}
  {events : List Event} {result : Except Failure Turn}

/-- What sending leaves behind. -/
theorem remarks_of_send
    (h : (c.send utterance).Yields events (after, result)) :
    ∃ outcome, Course c utterance events outcome
      ∧ after = (c.enter .idle).record utterance (spoken outcome)
      ∧ result = ((c.enter .idle).settle utterance outcome).2 := by
  obtain ⟨outcome, hcourse, hout⟩ := course_of_send h
  refine ⟨outcome, hcourse, ?_, congrArg Prod.snd hout⟩
  rw [← settle_fst]
  exact congrArg Prod.fst hout

/-- Sending leads from between two turns to between two turns. -/
theorem Settled.send (hc : Settled s c)
    (h : (c.send utterance).Yields events (after, result)) :
    Settled s after := by
  obtain ⟨outcome, -, rfl, -⟩ := remarks_of_send h
  refine ⟨hc.server, rfl, ?_, hc.turns.append_turn hc.even _ _⟩
  have hlength := hc.even
  simp only [record, enter, List.length_append, List.length_cons,
    List.length_nil]
  omega

/-- Clearing does so as well. -/
theorem Settled.clear (hc : Settled s c) : Settled s c.clear :=
  ⟨hc.server, hc.idle, rfl, takesTurns_nil⟩

/-- A run always stands between two turns. -/
theorem settled_of_reached (h : Reached s c) : Settled s c := by
  induction h with
  | start => exact ⟨rfl, rfl, rfl, takesTurns_nil⟩
  | send _ hsend ih => exact ih.send hsend
  | clear _ ih => exact ih.clear

/-- A turn that fails at its first question leads on. -/
theorem Reached.unheard (h : Reached s c) (utterance : String)
    (failure : Failure) :
    Reached s ((c.enter .idle).record utterance (errorReply failure)) := by
  have hnext :
      Reached s ((c.enter .idle).settle utterance (.error failure)).1 :=
    h.send (send_of_course .unheard)
  rw [settle_fst] at hnext
  exact hnext

/-- There are runs of any length, for any server. -/
theorem exists_reached_length (s : Server) (n : Nat) :
    ∃ c, Reached s c ∧ c.remarks.length = 2 * n := by
  induction n with
  | zero => exact ⟨_, .start, rfl⟩
  | succ n ih =>
      obtain ⟨c, hreached, hlength⟩ := ih
      refine ⟨_, hreached.unheard "again" (.completion "down"), ?_⟩
      simp only [record, enter, List.length_append, List.length_cons,
        List.length_nil]
      omega

/-- Over every run of sending and clearing, whatever the backend and the
engine answer and wherever they fail: between two steps the conversation is
idle, and its remarks are an even number in which the two take turns, the
user first. Sending adds two remarks behind those that there are, the
utterance and a reply. The reply is that of the turn which is handed back, or
tells the failure of the turn; only refused credentials are handed on as a
failure, and then the turn is recorded as well. Clearing leaves no remark. -/
theorem reached_records (h : Reached s c) :
    (c.phase = .idle ∧ c.remarks.length % 2 = 0 ∧ TakesTurns c.remarks)
      ∧ (c.clear.remarks = [] ∧ c.clear.phase = .idle)
      ∧ ∀ utterance events after result,
        (c.send utterance).Yields events (after, result) →
        after.phase = .idle ∧ ∃ outcome reply,
          Course c utterance events outcome
            ∧ after.remarks
              = c.remarks ++ [⟨.user, utterance⟩, ⟨.assistant, reply⟩]
            ∧ (∀ turn, outcome = .ok turn →
                reply = turn.reply ∧ result = .ok turn)
            ∧ (∀ failure, outcome = .error failure →
                reply = "Error: " ++ failure.message
                  ∧ ((∃ m, failure = .authentication m)
                      ∧ result = .error failure
                    ∨ (¬ ∃ m, failure = .authentication m)
                      ∧ result = .ok ⟨reply, none, none⟩))
            ∧ ∀ failure, result = .error failure →
                outcome = .error failure
                  ∧ ∃ m, failure = .authentication m := by
  have hc := settled_of_reached h
  refine ⟨⟨hc.idle, hc.even, hc.turns⟩, ⟨rfl, hc.idle⟩, ?_⟩
  intro utterance events after result hsend
  refine ⟨(hc.send hsend).idle, ?_⟩
  obtain ⟨outcome, hcourse, rfl, rfl⟩ := remarks_of_send hsend
  refine ⟨outcome, spoken outcome, hcourse, rfl, ?_, ?_, ?_⟩
  · rintro turn rfl
    exact ⟨rfl, rfl⟩
  · rintro failure rfl
    exact ⟨rfl, settle_snd (c.enter .idle) utterance failure⟩
  · intro failure hresult
    cases outcome with
    | ok turn => cases hresult
    | error raised =>
        rcases settle_snd (c.enter .idle) utterance raised with
          ⟨hrefused, h⟩ | ⟨-, h⟩
        · rw [h] at hresult
          cases hresult
          exact ⟨rfl, hrefused⟩
        · rw [h] at hresult
          cases hresult

/-- A server without endpoints. -/
def bare : Server :=
  { id := "s", name := "S", description := "", version := "1.0.0"
    baseUrl := "https://x.example", endpoints := [], status := .ready
    code := [], auth := none }

/-- A turn that refused credentials end, behind one that came to nothing:
the conversation is idle after it and has recorded it. -/
theorem reached_records_refused :
    ∃ c after, Reached bare c ∧ c.remarks.length = 2
      ∧ (c.send "hi").Yields
          [c.opening "hi" (.error (.authentication "invalid key"))]
          (after, .error (.authentication "invalid key"))
      ∧ after.phase = .idle
      ∧ after.remarks = c.remarks
          ++ [⟨.user, "hi"⟩, ⟨.assistant, "Error: invalid key"⟩] := by
  obtain ⟨c, hreached, hlength⟩ := exists_reached_length bare 1
  have hsend := send_of_course (Course.unheard :
    Course c "hi" _ (.error (.authentication "invalid key")))
  obtain ⟨-, -, hturns⟩ := reached_records hreached
  obtain ⟨hidle, outcome, reply, -, hremarks, -, hfails, hraised⟩ :=
    hturns _ _ _ _ hsend
  obtain ⟨rfl, -⟩ := hraised _ rfl
  obtain ⟨rfl, -⟩ := hfails _ rfl
  exact ⟨c, _, hreached, hlength, hsend, hidle, hremarks⟩

end Toolsmith.Chat.Conversation
