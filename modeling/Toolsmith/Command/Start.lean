/-
The start of the program: the options in front of a command, and then the
command itself.
-/
import Toolsmith.Command.Generate
import Toolsmith.Command.Inspect
import Toolsmith.Command.Session

namespace Toolsmith.Command

/-- The levels that reports can be limited to. -/
def levels : List String := ["DEBUG", "INFO", "WARNING", "ERROR"]

/-- What stands in front of a command. -/
def mainSignature : Signature :=
  { path := ["main"]
    named := [⟨["--log-level"], some (.anyCase levels), false⟩]
    positional := []
    rest := some "COMMAND [ARGS]..." }

/-- The commands. -/
inductive Verb where
  | inspect
  | generate
  | call
  | chat
  deriving DecidableEq, Repr

namespace Verb

/-- All commands. -/
def all : List Verb := [inspect, generate, call, chat]

/-- The word for a command. -/
def name : Verb → String
  | inspect => "inspect"
  | generate => "generate"
  | call => "call"
  | chat => "chat"

/-- The command that a word names. -/
def ofName? (name : String) : Option Verb :=
  all.find? fun v => v.name == name

/-- What a command takes. -/
def signature : Verb → Signature
  | inspect => inspectSignature
  | generate => generateSignature
  | call => callSignature
  | chat => chatSignature

end Verb

variable {m : Type → Type} [Monad m]

/-- The level of reports: the one that is given, or the one in the
settings. -/
def chosenLevel (host : Host m) (r : Reading) : Work m String := do
  match r.last? "--log-level" with
  | some value =>
    return (levels.find? (Settings.sameName value)).getD value
  | none => return (← loadSettings host).logLevel

/-- The command that texts begin with. A first text that is none may still
be a mistaken option. -/
def chosenVerb (host : Host m) (texts : List String) :
    Work m (Verb × List String) := do
  match texts with
  | [] => throw (.misused mainSignature .missingCommand)
  | name :: rest =>
    match Verb.ofName? name with
    | some verb => return (verb, rest)
    | none =>
      let _ ← reading host mainSignature texts
      throw (.misused mainSignature
        (.unknownCommand name
          (Text.similarTo name (Verb.all.map Verb.name))))

/-- Runs a command on a host. A command that talks leaves a session. -/
def start (host : Host m) (texts : List String) :
    Work m (Option Session) := do
  let options ← reading host mainSignature texts
  let (verb, rest) ← chosenVerb host options.places
  host.configure (← chosenLevel host options)
  let r ← reading host verb.signature rest
  match verb with
  | .inspect => inspect host r; return none
  | .generate => generate host r; return none
  | .call => call host r; return none
  | .chat => return some (← Session.start host r)

end Toolsmith.Command
