/-
The command that talks about an API. It opens a session, which then hears
one line after the other until one of them ends it.
-/
import Toolsmith.Chat.Conversation
import Toolsmith.Command.Call

namespace Toolsmith.Command

open Chat

/-- What `chat` takes. -/
def chatSignature : Signature :=
  { path := ["main", "chat"]
    named :=
      [⟨["--provider"], some (.word (Provider.all.map Provider.name)), false⟩,
       ⟨["--model"], some .text, false⟩, baseUrlOption] ++ authOptions
    positional := [specification] }

/-- An open conversation with the means that it goes on with. -/
structure Session where
  client : Client
  engine : Engine
  timeout : Binary64
  conversation : Conversation
  deriving Repr

namespace Session

/-- The settings with the provider and the model that a reading chooses. -/
def settingsOf (r : Reading) (s : Settings) : Settings :=
  { s with provider := (given? (r.last? "--provider")).getD s.provider
           model := (given? (r.last? "--model")).or s.model }

/-- What a session says at its start. -/
def greeting (s : Server) (p : Provider) : List String :=
  [s!"Connected to {s.name} ({s.endpoints.length} endpoints) via "
      ++ s!"{p.displayName}.",
   "Type 'exit' or 'quit' to stop, 'clear' to reset the conversation."]

/-- What a session asks for a line with. -/
def prompt : String := "you> "

/-- What is printed about a turn: the call that was made, if any, and the
reply. -/
def turnLines (t : Turn) : List String :=
  let callLine : List String :=
    match t.call, t.outcome with
    | some call, some outcome =>
      let status : String :=
        match outcome.statusCode with
        | some n => String.ofList (Text.integerText n)
        | none => "error"
      [s!"[{outcome.method} {call.endpoint} -> {status}]"]
    | _, _ => []
  callLine ++ [t.reply]

variable {m : Type → Type} [Monad m]

/-- Opens a session. -/
def start (host : Host m) (r : Reading) : Work m Session := do
  let settings := settingsOf r (← loadSettings host)
  let client ← orEnd settings.client
  let described ← loadServer host (place r 0)
  let server := described.withBaseUrl
    ((given? (r.last? "--base-url")).or settings.baseUrl)
  let auth ← loadAuth host r
  (greeting server client.provider).forM fun line => host.echo line
  return { client := client
           engine := Engine.ofServer server (some auth)
           timeout := settings.timeout
           conversation := .start server }

/-- Runs a turn. -/
def turn (host : Host m) (s : Session) (utterance : String) :
    m (Conversation × Except Failure Turn) :=
  (s.conversation.send utterance).run
    (fun _ q => s.client.complete host.complete q.prompt q.sampling)
    (fun _ e arguments =>
      s.engine.execute (host.send s.timeout) e (.map arguments))

/-- Hears a line: the session goes on, or it is over. -/
def hear (host : Host m) (s : Session) (line : String) :
    Work m (Option Session) := do
  let utterance := Text.strip line.toList
  let word := String.ofList (Text.lower utterance)
  if word == "exit" || word == "quit" then return none
  else if word == "clear" then
    host.echo "Conversation cleared."
    return some { s with conversation := s.conversation.clear }
  else if utterance.isEmpty then return some s
  else
    let (after, result) ← ExceptT.lift
      (s.turn host (String.ofList utterance))
    let turn ← orEnd result
    (turnLines turn).forM fun line => host.echo line
    return some { s with conversation := after }

end Session

end Toolsmith.Command
