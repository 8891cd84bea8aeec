/-
Credentials are for the API alone. A run of a conversation is two things at
once, what the backend is told and what the API is sent, and it is only the
headers of the latter that the credentials of a server have a part in. Two runs
with the same backend and the same network, whatever these remember from one
question to the next, so come to the same replies, outcomes and remarks under
any two credentials that make headers at all; and nothing that is generated for
a server has its credentials in it.
-/
import Toolsmith.Call.Engine
import Toolsmith.Generate.Package
import Toolsmith.Proofs.Chat.Alike
import Toolsmith.Proofs.Chat.Protocol

namespace Toolsmith

-- ============================================================ requests

/-- The request without its headers. -/
def Request.bare (r : Request) : Request := { r with headers := [] }

namespace Engine

/-- The plan with other headers on its request. -/
def Plan.withHeaders (headers : List (String × String)) : Plan → Plan
  | .settled o => .settled o
  | .send r => .send { r with headers := headers }

/-- Credentials that make headers have a part in no more than the headers of a
plan. -/
theorem plan_withHeaders {api api' : Engine}
    (hbase : api.baseUrl = api'.baseUrl)
    (h : ∃ made, api.headers = .ok made) {made' : List (String × String)}
    (h' : api'.headers = .ok made') (e : Endpoint) (arguments : Value) :
    api'.plan e arguments
      = (api.plan e arguments).map (Plan.withHeaders made') := by
  obtain ⟨made, hmade⟩ := h
  have hurl : api'.url e (argumentsOf arguments)
      = api.url e (argumentsOf arguments) := by
    unfold Engine.url
    rw [hbase]
  unfold plan
  dsimp only
  rw [hurl, hmade, h']
  cases api.url e (argumentsOf arguments) with
  | error failure => rfl
  | ok url =>
      obtain ⟨filled, missing⟩ := url
      cases missing with
      | cons name rest => rfl
      | nil =>
          show (query e _ >>= _) = Except.map _ (query e _ >>= _)
          cases query e (argumentsOf arguments) with
          | error failure => rfl
          | ok parts =>
              dsimp only [Bind.bind, Except.bind]
              cases content (String.ofList (Text.upper e.method.toList))
                (argumentsOf arguments) <;> rfl

/-- What becomes of a request does not depend on its headers. -/
theorem settle_withHeaders (headers : List (String × String)) (e : Endpoint)
    (r : Request) (answer : Except Trouble Response) :
    settle e { r with headers := headers } answer = settle e r answer := by
  cases answer <;> rfl

end Engine

namespace Chat

open Conversation (SameResult)

variable {β ν : Type}

-- =============================================================== worlds

/-- The world around a conversation: what its backend and its network remember,
every question so far, and every request. -/
structure World (β ν : Type) where
  backend : β
  network : ν
  asked : List (Phase × Question)
  sent : List Request

/-- What a backend and a network answer, and what they remember then. The
network does not look at headers. -/
structure Script (β ν : Type) where
  reply : β → Phase → Question → Except Failure String × β
  response : ν → Request → Except Trouble Response × ν

namespace Script

/-- Asks the backend. -/
def ask (script : Script β ν) (phase : Phase) (q : Question) :
    StateM (World β ν) (Except Failure String) := fun w =>
  let (reply, backend) := script.reply w.backend phase q
  (reply, { w with backend := backend, asked := w.asked ++ [(phase, q)] })

/-- Sends a request. -/
def send (script : Script β ν) (r : Request) :
    StateM (World β ν) (Except Trouble Response) := fun w =>
  let (response, network) := script.response w.network r.bare
  (response, { w with network := network, sent := w.sent ++ [r] })

end Script

/-- The worlds differ in nothing but the headers of requests. -/
structure World.Alike (w w' : World β ν) : Prop where
  backend : w.backend = w'.backend
  network : w.network = w'.network
  asked : w.asked = w'.asked
  sent : w.sent.map Request.bare = w'.sent.map Request.bare

variable {script : Script β ν}

/-- In alike worlds a question has one answer. -/
theorem agree_ask (phase : Phase) (q : Question) :
    Agree World.Alike Eq (script.ask phase q) (script.ask phase q) := by
  rintro ⟨backend, network, asked, sent⟩ ⟨_, _, _, sent'⟩
    ⟨rfl, rfl, rfl, hsent⟩
  exact ⟨rfl, rfl, rfl, rfl, hsent⟩

/-- So have two requests that differ in their headers. -/
theorem agree_send {r r' : Request} (h : r.bare = r'.bare) :
    Agree World.Alike Eq (script.send r) (script.send r') := by
  rintro ⟨backend, network, asked, sent⟩ ⟨_, _, _, sent'⟩
    ⟨rfl, rfl, rfl, hsent⟩
  unfold Script.send
  rw [h]
  refine ⟨rfl, rfl, rfl, rfl, ?_⟩
  show (sent ++ [r]).map Request.bare = (sent' ++ [r']).map Request.bare
  rw [List.map_append, List.map_append, hsent, List.map_singleton,
    List.map_singleton, h]

/-- Engines that differ in their credentials call an endpoint alike. -/
theorem agree_execute {api api' : Engine}
    (hbase : api.baseUrl = api'.baseUrl)
    (h : ∃ made, api.headers = .ok made)
    (h' : ∃ made, api'.headers = .ok made) (e : Endpoint)
    (arguments : Value) :
    Agree World.Alike Eq (api.execute script.send e arguments)
      (api'.execute script.send e arguments) := by
  obtain ⟨made', hmade'⟩ := h'
  unfold Engine.execute
  rw [Engine.plan_withHeaders hbase h hmade' e arguments]
  cases api.plan e arguments with
  | error failure => exact .pure rfl
  | ok made =>
      cases made with
      | settled outcome => exact .pure rfl
      | send request =>
          have hsend : Agree World.Alike Eq (script.send request)
              (script.send { request with headers := made' }) :=
            agree_send rfl
          exact hsend.bind_eq fun answer =>
            .pure (Engine.settle_withHeaders made' e request answer).symm

-- ================================================================= runs

/-- What is done with a conversation. -/
inductive Move where
  | send (utterance : String)
  | clear

/-- Goes through moves one by one: the conversation after the last one, and
what each utterance came to. -/
def play (script : Script β ν) (api : Engine) : Conversation → List Move →
    StateM (World β ν) (Conversation × List (Except Failure Turn))
  | c, [] => pure (c, [])
  | c, .clear :: rest => play script api c.clear rest
  | c, .send utterance :: rest => do
    let (after, result) ← (c.send utterance).run script.ask
      fun _ e arguments => api.execute script.send e (.map arguments)
    let (last, results) ← play script api after rest
    return (last, result :: results)

/-- Alike conversations with engines that differ in their credentials are
alike after any moves. -/
theorem agree_play {api api' : Engine} (hbase : api.baseUrl = api'.baseUrl)
    (h : ∃ made, api.headers = .ok made)
    (h' : ∃ made, api'.headers = .ok made) (moves : List Move)
    {c c' : Conversation} (hc : c.Alike c') :
    Agree World.Alike SameResult (play script api c moves)
      (play script api' c' moves) := by
  induction moves generalizing c c' with
  | nil => exact .pure ⟨hc, rfl⟩
  | cons move rest ih =>
      cases move with
      | clear => exact ih hc.clear
      | send utterance =>
          refine ((hc.send utterance).run agree_ask fun _ e arguments =>
            agree_execute hbase h h' e (.map arguments)).bind ?_
          rintro ⟨after, result⟩ ⟨after', _⟩ ⟨hafter, rfl⟩
          refine (ih hafter).bind ?_
          rintro ⟨last, results⟩ ⟨last', _⟩ ⟨hlast, rfl⟩
          exact .pure ⟨hlast, rfl⟩

/-- What a run leaves behind: the conversation, what each utterance came to,
and the world. -/
abbrev Run (β ν : Type) : Type :=
  (Conversation × List (Except Failure Turn)) × World β ν

/-- Holds a new conversation about a server with stored credentials, with an
engine that others may be given to. -/
def hold (script : Script β ν) (s : Server) (stored given : Option Auth)
    (moves : List Move) (w : World β ν) : Run β ν :=
  (play script (.ofServer (s.withAuth stored) given)
    (.start (s.withAuth stored)) moves).run w

/-- The runs cannot be told apart but by the headers of what was sent. -/
structure SameButHeaders (run run' : Run β ν) : Prop where
  results : run.1.2 = run'.1.2
  remarks : run.1.1.remarks = run'.1.1.remarks
  phase : run.1.1.phase = run'.1.1.phase
  asked : run.2.asked = run'.2.asked
  sent : run.2.sent.map Request.bare = run'.2.sent.map Request.bare

/-- Two runs of the same moves about servers that differ in their credentials,
with engines that do too, whatever the backend and the network answer. Every
utterance comes to the same, the conversations end in the same remarks and the
same phase, the backend is asked the same, and the requests are the same but
for their headers. And what is generated for the servers is the same too. -/
theorem credentials_unseen (script : Script β ν) (s : Server)
    (stored stored' given given' : Option Auth)
    (h : ∃ made,
      (Engine.ofServer (s.withAuth stored) given).headers = .ok made)
    (h' : ∃ made,
      (Engine.ofServer (s.withAuth stored') given').headers = .ok made)
    (moves : List Move) (w : World β ν) :
    SameButHeaders (hold script s stored given moves w)
        (hold script s stored' given' moves w)
      ∧ ∀ t : Generate.Target,
        t.source (s.withAuth stored) = t.source (s.withAuth stored')
          ∧ Generate.package (s.withAuth stored) t
            = Generate.package (s.withAuth stored') t
          ∧ Generate.archive (s.withAuth stored) t
            = Generate.archive (s.withAuth stored') t := by
  have hstart : (Conversation.start (s.withAuth stored)).Alike
      (.start (s.withAuth stored')) :=
    ⟨rfl, rfl, rfl⟩
  have hbase : (Engine.ofServer (s.withAuth stored) given).baseUrl
      = (Engine.ofServer (s.withAuth stored') given').baseUrl :=
    rfl
  have hplay : Agree World.Alike SameResult
      (play script (.ofServer (s.withAuth stored) given)
        (.start (s.withAuth stored)) moves)
      (play script (.ofServer (s.withAuth stored') given')
        (.start (s.withAuth stored')) moves) :=
    agree_play hbase h h' moves hstart
  obtain ⟨⟨hlast, hresults⟩, hworld⟩ := hplay w w ⟨rfl, rfl, rfl, rfl⟩
  refine ⟨⟨hresults, hlast.remarks, hlast.phase, hworld.asked, hworld.sent⟩,
    fun t => ?_⟩
  cases t <;> exact ⟨rfl, rfl, rfl⟩

/-- A backend that gives one reply after the other, and a network where every
request is answered by an empty body. -/
def listed : Script (List String) Unit where
  reply
    | [], _, _ => (.error (.completion "no reply"), [])
    | reply :: rest, _, _ => (.ok reply, rest)
  response _ _ := (.ok ⟨200, [], none⟩, ())

/-- Two turns with the past cleared between them. -/
def twice : List Move := [.send "Get user 7", .clear, .send "Get user 7"]

/-- A world with replies for two turns that call and reply. -/
def twoCalls : World (List String) Unit :=
  ⟨[pathedReply, "Ada", pathedReply, "Ada again"], (), [], []⟩

/-- A token to be stored with a server. -/
def storedToken : Auth := { scheme := .bearer, bearerToken := some "secret" }

/-- A key to be given to an engine. -/
def givenKey : Auth :=
  { scheme := .apiKey, headerName := some "X-Key", apiKey := some "secret" }

/-- How many headers the requests of a run have. -/
def headerCounts (stored given : Option Auth) : List Nat :=
  (hold listed Conversation.users stored given twice twoCalls).2.sent.map
    (·.headers.length)

/-- Without credentials and with a key in place of a token the same two calls
are made and told, each request with headers of its own. -/
theorem credentials_unseen_users :
    SameButHeaders (hold listed Conversation.users none none twice twoCalls)
        (hold listed Conversation.users (some storedToken) (some givenKey)
          twice twoCalls)
      ∧ headerCounts none none = [2, 2]
      ∧ headerCounts (some storedToken) (some givenKey) = [3, 3] := by
  obtain ⟨hsame, -⟩ :=
    credentials_unseen listed Conversation.users none (some storedToken) none
      (some givenKey) ⟨_, rfl⟩ ⟨_, rfl⟩ twice twoCalls
  refine ⟨hsame, ?_, ?_⟩
  · decide +kernel
  · decide +kernel

end Chat

end Toolsmith
