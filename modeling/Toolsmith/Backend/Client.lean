/-
Clients of completion services: the call that a prompt makes, and the reply
or the failure that its answer makes.
-/
import Toolsmith.Api.Auth
import Toolsmith.Backend.Message
import Toolsmith.Backend.Provider

namespace Toolsmith

/-- How a completion is drawn: the temperature, which is a number, and a
limit on the length. -/
structure Sampling where
  temperature : Value
  maxTokens : Value
  deriving Repr

/-- The temperature of a decimal with one place. -/
def tenths (n : Nat) : Value := .float (.ofRatio false n 10)

/-- How completions are drawn unless told otherwise. -/
def Sampling.default : Sampling := ⟨tenths 7, .null⟩

/-- A call of a completion service. -/
structure ServiceCall where
  model : String
  messages : List Value
  sampling : Sampling
  apiKey : Option String
  extraHeaders : List (String × String)
  deriving Repr

/-- What a service answers: a content, which may be missing, or no choice
or no message at all. -/
inductive ServiceReply where
  | content (s : Option String)
  | noChoice
  | noMessage
  deriving DecidableEq, Repr

/-- Why a service does not answer, with its message: it refuses the
credentials, or something else. -/
inductive ServiceTrouble where
  | refused (message : String)
  | other (message : String)
  deriving DecidableEq, Repr

/-- A client of a completion service. -/
structure Client where
  provider : Provider
  model : String
  apiKey : Option String
  extraHeaders : List (String × String)
  deriving DecidableEq, Repr

namespace Client

/-- The headers that tell the service where requests come from. -/
def siteHeaders (url name : Option String) : List (String × String) :=
  ((given? url).map ("HTTP-Referer", ·)).toList
    ++ ((given? name).map ("X-Title", ·)).toList

/-- A client. Without a model it takes the default one. -/
def make (p : Provider) (apiKey model : Option String)
    (extraHeaders : List (String × String)) : Client :=
  ⟨p, (given? model).getD p.defaultModel, apiKey, extraHeaders⟩

/-- A failure of the service, under the name of the provider. -/
def failed (c : Client) (message : String) : String :=
  s!"{c.provider.displayName} API error: {message}"

/-- The messages of a prompt. Gemini takes a whole conversation as one
text. -/
def messages (p : Provider) :
    Prompt → Except Message.Fault (List Value)
  | .text s => .ok [Message.user s]
  | .messages ms =>
    match p with
    | .gemini => do return [Message.user (← Message.flatten ms)]
    | _ => .ok ms

/-- The call that a prompt makes. -/
def call (c : Client) (prompt : Prompt) (sampling : Sampling) :
    Except Failure ServiceCall :=
  match messages c.provider prompt with
  | .ok ms =>
    .ok ⟨c.provider.route c.model, ms, sampling, c.apiKey, c.extraHeaders⟩
  | .error fault => .error (.completion (c.failed fault.message))

/-- The reply for an empty content. -/
def noResponse : String := "No response generated"

/-- The reply that the answer of a service makes. -/
def settle (c : Client) :
    Except ServiceTrouble ServiceReply → Except Failure String
  | .ok (.content s) => .ok ((given? s).getD noResponse)
  | .ok .noChoice => malformed "list index out of range"
  | .ok .noMessage =>
    malformed "'NoneType' object has no attribute 'content'"
  | .error (.refused message) =>
    .error (.authentication (c.failed message))
  | .error (.other message) => .error (.completion (c.failed message))
where
  /-- An answer that is not of the expected form. -/
  malformed (why : String) : Except Failure String :=
    .error (.completion (c.failed s!"malformed response ({why})"))

/-- Completes a prompt, with `ask` for what asks the service. -/
def complete {m : Type → Type} [Monad m]
    (ask : ServiceCall → m (Except ServiceTrouble ServiceReply))
    (c : Client) (prompt : Prompt) (sampling : Sampling) :
    m (Except Failure String) :=
  match c.call prompt sampling with
  | .error failure => pure (.error failure)
  | .ok call => do return c.settle (← ask call)

end Client

end Toolsmith
