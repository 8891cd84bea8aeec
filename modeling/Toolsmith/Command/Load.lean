/-
What several commands start with: the server that a file describes, the
settings, and the credentials for the API.
-/
import Toolsmith.Command.Host
import Toolsmith.Document.Server

namespace Toolsmith.Command

variable {m : Type → Type} [Monad m]

/-- The argument that names the file of a description. -/
def specification : Positional := ⟨"SPEC_PATH", .file⟩

/-- The server that a file describes, ready for use. -/
def loadServer (host : Host m) (path : String) : Work m Server := do
  let content ← orFileEnd (host.read path)
  let text := String.ofList (Text.unifyBreaks content.toList)
  let document ← orEnd (Document.load text (some path))
  let (server, reports) ← orEnd document.server
  host.report reports
  return server.markReady

/-- The settings that the environment holds. -/
def loadSettings (host : Host m) : Work m Settings :=
  match Settings.read [] host.environment with
  | .ok settings => pure settings
  | .error (.misuse (.depth isMapping)) =>
    throw (.failed (.misuse (.depth isMapping)))
  | .error failure =>
    throw (.refused s!"Invalid configuration: {failure.message}")

/-- The options for credentials. -/
def authOptions : List Named :=
  [⟨["--auth"], some (.word (Scheme.words.map (·.1))), false⟩,
   ⟨["--api-key"], some .text, false⟩,
   ⟨["--header-name"], some .text, false⟩,
   ⟨["--token"], some .text, false⟩,
   ⟨["--username"], some .text, false⟩,
   ⟨["--password"], some .text, false⟩]

/-- The header for an API key unless another one is named. -/
def keyHeader : String := "X-API-Key"

/-- The scheme that a reading chooses. -/
def chosenScheme (r : Reading) : Scheme :=
  ((r.last? "--auth").bind fun name => Scheme.words.lookup name).getD .none

/-- The credentials of a reading. Without a scheme those of the settings
count. -/
def loadAuth (host : Host m) (r : Reading) : Work m Auth := do
  match chosenScheme r with
  | .none => return (← loadSettings host).auth
  | scheme =>
    return { scheme := scheme
             apiKey := r.last? "--api-key"
             headerName := some ((r.last? "--header-name").getD keyHeader)
             bearerToken := r.last? "--token"
             username := r.last? "--username"
             password := r.last? "--password" }

/-- The text in a place; a checked reading has it. -/
def place (r : Reading) (n : Nat) : String := (r.places[n]?).getD ""

end Toolsmith.Command
