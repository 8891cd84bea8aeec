/-
A conversation about one API. A turn asks the backend what the utterance
wants, perhaps calls the API, asks for a reply, and is then recorded,
whatever went wrong in it.
-/
import Toolsmith.Chat.Dialogue
import Toolsmith.Chat.Prompt

namespace Toolsmith.Chat

-- ============================================================ questions

/-- The question what an utterance wants. -/
def analysisQuestion (endpoints : List Endpoint) (utterance : String) :
    Question :=
  ⟨.text (analysis utterance endpoints), ⟨tenths 3, .null⟩⟩

/-- The question which endpoint fits. -/
def suggestionQuestion (endpoints : List Endpoint) (query : String) :
    Question :=
  ⟨.text (suggestion query endpoints), ⟨tenths 3, .null⟩⟩

/-- The intent of an utterance. -/
def resolve (endpoints : List Endpoint) (utterance : String) :
    Dialogue (Except Failure Intent) :=
  .ask .resolving (analysisQuestion endpoints utterance) fun answer =>
    .done (answer.bind (Intent.ofReply endpoints))

/-- A suggestion for a question. A backend that fails is reported in its
place. -/
def suggest (endpoints : List Endpoint) (query : String) :
    Dialogue (Except Failure Suggestion) :=
  .ask .idle (suggestionQuestion endpoints query) fun answer =>
    .done <|
      match answer with
      | .ok reply => Suggestion.ofReply reply
      | .error (.completion m) => .ok (.plain s!"Analysis error: {m}")
      | .error (.authentication m) => .ok (.plain s!"Analysis error: {m}")
      | .error failure => .error failure

-- =============================================================== turns

/-- A call that a turn made. -/
structure ExecutedCall where
  endpoint : String
  arguments : Arguments
  deriving Repr

/-- What a turn comes to: a reply, and the call behind it with its
outcome. -/
structure Turn where
  reply : String
  outcome : Option Outcome
  call : Option ExecutedCall
  deriving Repr

-- ============================================================= remarks

/-- Who says something in a conversation. -/
inductive Speaker where
  | user
  | assistant
  deriving DecidableEq, Repr

/-- The role of a speaker in messages. -/
def Speaker.role : Speaker → String
  | user => "user"
  | assistant => "assistant"

/-- What was said by one speaker. -/
structure Remark where
  speaker : Speaker
  text : String
  deriving DecidableEq, Repr

/-- A remark as a message. -/
def Remark.message (r : Remark) : Value :=
  Message.of r.speaker.role r.text

-- ======================================================= conversations

/-- A conversation: what was said so far, oldest first, and where it is in
its turn. -/
structure Conversation where
  server : Server
  remarks : List Remark
  phase : Phase
  deriving Repr

namespace Conversation

/-- A new conversation about a server. -/
def start (s : Server) : Conversation := ⟨s, [], .idle⟩

/-- Forgets what was said. -/
def clear (c : Conversation) : Conversation := { c with remarks := [] }

/-- The conversation in another phase. -/
def enter (c : Conversation) (phase : Phase) : Conversation :=
  { c with phase := phase }

/-- All remarks as messages. -/
def history (c : Conversation) : List Value := c.remarks.map Remark.message

/-- How many messages of the past a reply takes into account. -/
def window : Nat := 10

/-- The last messages of the past, as many as a reply takes into account. -/
def recent (c : Conversation) : List Value :=
  c.history.drop (c.history.length - window)

/-- The question for a reply. There is none without a message about the
API. -/
def replyQuestion (c : Conversation) (outcome : Option Outcome)
    (utterance : String) : Except Failure Question := do
  let message ← systemMessage c.server outcome
  return ⟨.messages
    (Message.of "system" message :: c.recent ++ [Message.user utterance]),
   ⟨tenths 7, .int 1500⟩⟩

/-- The call of an intent, with its outcome, if it wants one. -/
def perform (c : Conversation) (intent : Intent) :
    Dialogue (Conversation
      × Except Failure (Option (Outcome × ExecutedCall))) :=
  match intent.target with
  | none => .done (c, .ok none)
  | some (e, arguments) =>
    let c := c.enter .executing
    .execute c.phase e arguments fun answer =>
      .done (c, answer.map fun outcome => some (outcome, ⟨e.name, arguments⟩))

/-- Asks for the reply to an utterance, after a call or without one. A call
that failed ends the turn, and so does a question that cannot be made. -/
def respond (c : Conversation) (utterance : String) :
    Except Failure (Option (Outcome × ExecutedCall)) →
    Dialogue (Conversation × Except Failure Turn)
  | .error failure => .done (c, .error failure)
  | .ok performed =>
    let c := c.enter .responding
    let outcome := performed.map (·.1)
    match c.replyQuestion outcome utterance with
    | .error failure => .done (c, .error failure)
    | .ok q =>
      .ask c.phase q fun answer =>
        .done (c, answer.map fun reply =>
          ⟨reply, outcome, performed.map (·.2)⟩)

/-- Goes on with the intent of an utterance: makes its call, and then asks
for the reply. Without an intent the turn is at its end. -/
def pursue (c : Conversation) (utterance : String) :
    Except Failure Intent → Dialogue (Conversation × Except Failure Turn)
  | .error failure => .done (c, .error failure)
  | .ok intent =>
    (c.perform intent).bind fun (c, performed) =>
      c.respond utterance performed

/-- Runs a turn: resolve, perhaps call, then ask for a reply. The first
failure ends it, in the phase that the conversation is in by then. -/
def runTurn (c : Conversation) (utterance : String) :
    Dialogue (Conversation × Except Failure Turn) :=
  let c := c.enter .resolving
  ((resolve c.server.endpoints utterance).during c.phase).bind
    (c.pursue utterance)

/-- The reply that stands for a failure. -/
def errorReply (failure : Failure) : String := "Error: " ++ failure.message

/-- Adds what was said in a turn. -/
def record (c : Conversation) (utterance reply : String) : Conversation :=
  { c with remarks :=
      c.remarks ++ [⟨.user, utterance⟩, ⟨.assistant, reply⟩] }

/-- What a turn comes to, with the conversation after it. Refused
credentials are a failure of the turn, which is recorded all the same; every
other failure is a reply. -/
def settle (c : Conversation) (utterance : String) :
    Except Failure Turn → Conversation × Except Failure Turn
  | .ok turn => (c.record utterance turn.reply, .ok turn)
  | .error failure =>
    let reply := errorReply failure
    let after := c.record utterance reply
    match failure with
    | .authentication _ => (after, .error failure)
    | _ => (after, .ok ⟨reply, none, none⟩)

/-- One turn. Whatever it comes to, the conversation is idle after it. -/
def send (c : Conversation) (utterance : String) :
    Dialogue (Conversation × Except Failure Turn) :=
  (c.runTurn utterance).bind fun (c, result) =>
    .done ((c.enter .idle).settle utterance result)

end Conversation

end Toolsmith.Chat
