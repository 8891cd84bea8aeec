/-
The protocol of a turn: what it asks for, in which order, and what it puts
in front of the utterance when it asks for the reply. The order is read off the
courses. That the past in front of the utterance begins with the user is not a
matter of the turn alone: it needs that a run leaves an even number of remarks,
so that what falls out of the window is even as well.
-/
import Toolsmith.Proofs.Chat.History
import Toolsmith.Proofs.Chat.Intent

namespace Toolsmith.Chat.Conversation

variable {s : Server} {c after : Conversation} {utterance : String}
  {events : List Event} {result : Except Failure Turn}

-- =========================================================== the window

/-- The part of the past that a reply takes into account. -/
theorem recent_eq (c : Conversation) :
    c.recent
      = (c.remarks.drop (c.remarks.length - window)).map Remark.message := by
  unfold recent history
  rw [List.length_map, List.map_drop]

/-- The question for a reply, spelled out. -/
theorem replyQuestion_eq_ok {outcome : Option Outcome} {q : Question}
    (h : c.replyQuestion outcome utterance = .ok q) :
    ∃ message, systemMessage c.server outcome = .ok message
      ∧ q = ⟨.messages (Message.of "system" message
            :: (c.remarks.drop (c.remarks.length - window)).map
                Remark.message
            ++ [Message.user utterance]),
          ⟨tenths 7, .int 1500⟩⟩ := by
  unfold replyQuestion at h
  obtain ⟨message, hmessage, hq⟩ := Steps.bind_eq_ok.mp h
  cases hq
  rw [recent_eq]
  exact ⟨message, hmessage, rfl⟩

/-- Between two turns the window begins with the user, and the two take turns
in it. -/
theorem Settled.takesTurns_window (hc : Settled s c) :
    TakesTurns (c.remarks.drop (c.remarks.length - window)) := by
  apply hc.turns.drop
  have heven := hc.even
  unfold window
  omega

-- ========================================================= the calls made

/-- The events are calls that the answer to the first question asks for. -/
def CallsFor (endpoints : List Endpoint) (answer : Except Failure String)
    (made : List Event) : Prop :=
  made.length ≤ 1
    ∧ (made ≠ [] ↔ ∃ reply i, answer = .ok reply
        ∧ Intent.ofReply endpoints reply = .ok i ∧ i.shouldExecute = true)
    ∧ ∀ event ∈ made, ∃ reply i e arguments outcome, answer = .ok reply
        ∧ Intent.ofReply endpoints reply = .ok i
        ∧ i.target = some (e, arguments)
        ∧ event = .called .executing e arguments outcome

variable {endpoints : List Endpoint}

/-- An answer that is no intent with a target asks for no call. -/
theorem callsFor_nil {answer : Except Failure String}
    (h : ∀ reply i, answer = .ok reply →
      Intent.ofReply endpoints reply = .ok i → i.target = none) :
    CallsFor endpoints answer [] := by
  refine ⟨Nat.zero_le 1, ⟨fun hne => absurd rfl hne, ?_⟩,
    fun event hevent => (by cases hevent)⟩
  rintro ⟨reply, i, hanswer, hread, hcall⟩
  unfold Intent.shouldExecute at hcall
  rw [h reply i hanswer hread] at hcall
  cases hcall

/-- An intent with a target asks for the call of it. -/
theorem callsFor_singleton {reply : String} {i : Intent} {e : Endpoint}
    {arguments : Arguments} (hread : Intent.ofReply endpoints reply = .ok i)
    (htarget : i.target = some (e, arguments))
    (outcome : Except Failure Outcome) :
    CallsFor endpoints (.ok reply)
      [.called .executing e arguments outcome] := by
  refine ⟨Nat.le_refl 1, ⟨fun _ => ⟨reply, i, rfl, hread, ?_⟩,
    fun _ => List.cons_ne_nil _ _⟩, ?_⟩
  · unfold Intent.shouldExecute
    rw [htarget]
    rfl
  · intro event hevent
    rw [List.mem_singleton.mp hevent]
    exact ⟨reply, i, e, arguments, outcome, rfl, hread, htarget, rfl⟩

/-- What an intent has performed is what it asks for. -/
theorem callsFor_of_performed {reply : String} {i : Intent}
    {made : List Event} {performed : Option (Outcome × ExecutedCall)}
    (hread : Intent.ofReply endpoints reply = .ok i)
    (hmade : Performed i made performed) :
    CallsFor endpoints (.ok reply) made := by
  cases hmade with
  | nothing htarget =>
      apply callsFor_nil
      intro reply' i' hsame hread'
      obtain rfl := Except.ok.inj hsame
      obtain rfl := Except.ok.inj (hread.symm.trans hread')
      exact htarget
  | call htarget => exact callsFor_singleton hread htarget _

-- ========================================================== the protocol

/-- The event is a question for the reply to the utterance. -/
def AsksReply (c : Conversation) (utterance : String) (event : Event) :
    Prop :=
  ∃ shown q text, c.replyQuestion shown utterance = .ok q
    ∧ event = .asked .responding q text

/-- A course is the first question, then a call if one is asked for, then at
most one question for the reply. -/
theorem Course.order {outcome : Except Failure Turn}
    (h : Course c utterance events outcome) :
    ∃ answer made replies,
      events = c.opening utterance answer :: (made ++ replies)
        ∧ CallsFor c.server.endpoints answer made
        ∧ replies.length ≤ 1
        ∧ ∀ event ∈ replies, c.AsksReply utterance event := by
  cases h with
  | unheard =>
      refine ⟨_, [], [], rfl, callsFor_nil ?_, Nat.zero_le 1,
        List.forall_mem_nil _⟩
      intro reply i hanswer
      cases hanswer
  | unread hread =>
      refine ⟨_, [], [], rfl, callsFor_nil ?_, Nat.zero_le 1,
        List.forall_mem_nil _⟩
      intro reply i hanswer hok
      obtain rfl := Except.ok.inj hanswer
      cases hread.symm.trans hok
  | unperformed hread htarget =>
      exact ⟨_, [_], [], rfl, callsFor_singleton hread htarget _,
        Nat.zero_le 1, List.forall_mem_nil _⟩
  | @unasked _ _ made _ _ hread hmade _ =>
      refine ⟨_, made, [], ?_, callsFor_of_performed hread hmade,
        Nat.zero_le 1, List.forall_mem_nil _⟩
      rw [List.append_nil]
  | unanswered hread hmade hquestion =>
      exact ⟨_, _, [_], rfl, callsFor_of_performed hread hmade,
        Nat.le_refl 1,
        List.forall_mem_singleton.mpr ⟨_, _, _, hquestion, rfl⟩⟩
  | answered hread hmade hquestion =>
      exact ⟨_, _, [_], rfl, callsFor_of_performed hread hmade,
        Nat.le_refl 1,
        List.forall_mem_singleton.mpr ⟨_, _, _, hquestion, rfl⟩⟩

/-- The protocol of a turn after any run, whatever the backend and the engine
answer. There are at most two questions and at most one call. The question what
the utterance wants comes first, while resolving. The call comes next, while
executing: there is one exactly if the answer reads as an intent to call, and
it is the call of that intent. The question for the reply comes last, while
responding: its messages are the message about the API, the last ten remarks
or all if there are fewer, in which the user speaks first and the two take
turns, and the utterance. -/
theorem turn_protocol (h : Reached s c)
    (hsend : (c.send utterance).Yields events (after, result)) :
    events.countP Event.isQuestion ≤ 2 ∧ events.countP Event.isCall ≤ 1
      ∧ ∃ answer made replies,
        events = .asked .resolving
            ⟨.text (analysis utterance s.endpoints), ⟨tenths 3, .null⟩⟩ answer
            :: (made ++ replies)
          ∧ (made ≠ [] ↔ ∃ reply i, answer = .ok reply
              ∧ Intent.ofReply s.endpoints reply = .ok i
              ∧ i.shouldExecute = true)
          ∧ (∀ event ∈ made, ∃ reply i e arguments outcome,
              answer = .ok reply ∧ Intent.ofReply s.endpoints reply = .ok i
                ∧ i.target = some (e, arguments)
                ∧ event = .called .executing e arguments outcome)
          ∧ ∀ event ∈ replies, ∃ shown message older past text,
              systemMessage s shown = .ok message
                ∧ c.remarks = older ++ past
                ∧ past.length = min 10 c.remarks.length ∧ TakesTurns past
                ∧ event = .asked .responding
                    ⟨.messages (Message.of "system" message
                        :: past.map Remark.message
                        ++ [Message.user utterance]),
                      ⟨tenths 7, .int 1500⟩⟩ text := by
  have hc := settled_of_reached h
  obtain ⟨outcome, hcourse, -⟩ := course_of_send hsend
  obtain ⟨answer, made, replies, rfl, ⟨hfew, hasked, hmade⟩, hlast, hreplies⟩ :=
    hcourse.order
  rw [hc.server] at hasked hmade
  have hmadeCalls : made.countP Event.isQuestion = 0 := by
    rw [List.countP_eq_zero]
    intro event hevent
    obtain ⟨_, _, _, _, _, _, _, _, rfl⟩ := hmade event hevent
    exact Bool.false_ne_true
  have hreplyQuestions : replies.countP Event.isCall = 0 := by
    rw [List.countP_eq_zero]
    intro event hevent
    obtain ⟨_, _, _, _, rfl⟩ := hreplies event hevent
    exact Bool.false_ne_true
  refine ⟨?_, ?_, answer, made, replies, ?_, hasked, hmade, ?_⟩
  · have hle := List.countP_le_length (p := Event.isQuestion) (l := replies)
    rw [List.countP_cons, List.countP_append, hmadeCalls]
    split <;> omega
  · have hle := List.countP_le_length (p := Event.isCall) (l := made)
    rw [opening, List.countP_cons_of_neg Bool.false_ne_true,
      List.countP_append, hreplyQuestions]
    omega
  · rw [opening, hc.server]
    rfl
  · intro event hevent
    obtain ⟨shown, q, text, hquestion, rfl⟩ := hreplies event hevent
    obtain ⟨message, hmessage, rfl⟩ := replyQuestion_eq_ok hquestion
    rw [hc.server] at hmessage
    refine ⟨shown, message, _, _, text, hmessage,
      (List.take_append_drop (c.remarks.length - window) c.remarks).symm, ?_,
      hc.takesTurns_window, rfl⟩
    rw [List.length_drop]
    unfold window
    omega

-- ============================================================ an example

/-- There is a question for a reply if the outcome can be shown. -/
theorem exists_replyQuestion (c : Conversation) (utterance : String)
    {o : Outcome} (h : levels o.data ≤ Json.depthLimit) :
    ∃ q, c.replyQuestion (some o) utterance = .ok q := by
  unfold replyQuestion systemMessage
  dsimp only
  rw [if_pos h]
  exact ⟨_, rfl⟩

/-- A server with an endpoint to call. -/
def users : Server := { bare with endpoints := [pathed] }

/-- An outcome of calling it. -/
def found : Outcome :=
  ⟨true, .null, none, some 200, "getUser", "GET", some "/users/7"⟩

/-- A turn that calls this endpoint gets as far as the question for the
reply. -/
theorem exists_performed_pathed (utterance : String)
    (h : c.server.endpoints = [pathed]) :
    ∃ i arguments q, Intent.ofReply c.server.endpoints pathedReply = .ok i
      ∧ Performed i [.called .executing pathed arguments (.ok found)]
          (some (found, ⟨pathed.name, arguments⟩))
      ∧ c.replyQuestion (some found) utterance = .ok q := by
  obtain ⟨i, arguments, hread, htarget⟩ := target_of_pathedReply
  obtain ⟨q, hquestion⟩ :=
    exists_replyQuestion c utterance (o := found) (Nat.zero_le _)
  rw [← h] at hread
  exact ⟨i, arguments, q, hread, .call htarget, hquestion⟩

/-- A turn behind six others that calls and replies: of the twelve remarks the
question for the reply leaves two out, and begins with the user. -/
theorem turn_protocol_windowed :
    ∃ c events after turn, Reached users c ∧ c.remarks.length = 12
      ∧ (c.send "Get user 7").Yields events (after, .ok turn)
      ∧ turn.outcome = some found
      ∧ ∃ message older past text,
        .asked .responding
            ⟨.messages (Message.of "system" message
                :: past.map Remark.message
                ++ [Message.user "Get user 7"]),
              ⟨tenths 7, .int 1500⟩⟩ text ∈ events
          ∧ c.remarks = older ++ past ∧ past.length = 10
          ∧ TakesTurns past := by
  obtain ⟨c, hreached, hlength⟩ := exists_reached_length users 6
  have hserver : c.server = users := (settled_of_reached hreached).server
  obtain ⟨i, arguments, q, hread, hmade, hquestion⟩ :=
    exists_performed_pathed (c := c) "Get user 7" (by rw [hserver]; rfl)
  have hsend := send_of_course
    (Course.answered hread hmade hquestion :
      Course c "Get user 7" _ (.ok ⟨"User 7 it is.", _, _⟩))
  obtain ⟨-, -, answer, made, replies, hevents, -, hcalls, hreplies⟩ :=
    turn_protocol hreached hsend
  -- the question for the reply is not the first event and no call
  have hasked : .asked .responding q (.ok "User 7 it is.") ∈ replies := by
    have hmem : .asked .responding q (.ok "User 7 it is.")
        ∈ _ :: (made ++ replies) :=
      hevents ▸ List.mem_append_right [_, _] (List.mem_singleton_self _)
    rcases List.mem_cons.mp hmem with hfirst | hrest
    · injection hfirst with hphase
      cases hphase
    · rcases List.mem_append.mp hrest with hcall | hreply
      · obtain ⟨_, _, _, _, _, _, _, _, hevent⟩ := hcalls _ hcall
        cases hevent
      · exact hreply
  obtain ⟨shown, message, older, past, text, -, hremarks, hwindow, hturns,
    hevent⟩ := hreplies _ hasked
  refine ⟨c, _, _, _, hreached, hlength, hsend, rfl, message, older, past, text,
    ?_, hremarks, ?_, hturns⟩
  · rw [hevents, ← hevent]
    exact List.mem_cons_of_mem _ (List.mem_append_right _ hasked)
  · rw [hwindow, hlength]
    rfl

end Toolsmith.Chat.Conversation
