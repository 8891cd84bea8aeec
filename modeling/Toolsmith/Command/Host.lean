/-
What a command needs from the system that it runs on: an environment, files,
output, and ways to reach an API and a completion service.
-/
import Toolsmith.Backend.Client
import Toolsmith.Call.Engine
import Toolsmith.Command.Reading
import Toolsmith.Encoding.SystemText
import Toolsmith.Log
import Toolsmith.Settings

namespace Toolsmith.Command

/-- What there is under a path. -/
inductive Entry where
  | file
  | directory
  deriving DecidableEq, Repr

/-- A system that commands run on. Making a directory makes those above it,
and is no fault if it is there. -/
structure Host (m : Type → Type) where
  environment : List (String × String)
  entry : String → m (Option Entry)
  read : String → m (Except FileFault String)
  makeDirectory : String → m (Except FileFault Unit)
  write : String → String → m (Except FileFault Unit)
  print : String → m Unit
  warn : String → m Unit
  /-- Sets the level of reports. -/
  configure : String → m Unit
  report : List Log.Entry → m Unit
  /-- Sends a request and waits for so many seconds. -/
  send : Binary64 → Request → m (Except Trouble Response)
  complete : ServiceCall → m (Except ServiceTrouble ServiceReply)

/-- Work on a host that may end early. -/
abbrev Work (m : Type → Type) (α : Type) : Type := ExceptT Ending m α

variable {m : Type → Type} [Monad m]

namespace Host

/-- Prints a line among the errors, with an escape for every lone
surrogate. -/
def complain (host : Host m) (line : String) : m Unit :=
  host.warn (String.ofList (Text.escapeLone line.toList) ++ "\n")

end Host

/-- A failure ends the work. -/
def orEnd {α : Type} : Except Failure α → Work m α
  | .ok a => pure a
  | .error failure => throw (.ofFailure failure)

/-- A fault with a file ends the work. -/
def orFileEnd {α : Type} (result : m (Except FileFault α)) : Work m α := do
  match ← result with
  | .ok a => return a
  | .error fault => throw (.failed (.file fault))

/-- Prints a line, which has to have octets. -/
def Host.echo (host : Host m) (line : String) : Work m Unit := do
  match Text.Lone.find? line.toList with
  | some run => throw (.failed (.misuse (.lone run)))
  | none => ExceptT.lift (host.print (line ++ "\n"))

-- =============================================================== checks

/-- What is wrong with the value of a parameter, if anything is. -/
def problem? (host : Host m) (kind : Kind) (value : String) :
    m (Option Problem) :=
  match kind with
  | .text => pure none
  | .number =>
    pure (if (Number.float? value.toList).isSome then none
      else some (.notNumber value))
  | .word words =>
    pure (if words.contains value then none
      else some (.notWord value words))
  | .anyCase words =>
    let lowered := words.map fun w => String.ofList (Text.lower w.toList)
    pure (if words.any (Settings.sameName value) then none
      else some (.notWord value lowered))
  | .file => do
    match ← host.entry value with
    | some .file => return none
    | some .directory => return some (.isDirectory value)
    | none => return some (.noFile value)
  | .directory => do
    match ← host.entry value with
    | some .file => return some (.isFile value)
    | _ => return none

/-- The value names something in the file system. -/
def Kind.isPath : Kind → Bool
  | .file | .directory => true
  | _ => false

/-- Checks one value. -/
def requireValue (host : Host m) (s : Signature) (shown : String)
    (kind : Kind) (value : String) : Work m Unit := do
  if kind.isPath then orEnd (SystemText.require value)
  match ← ExceptT.lift (problem? host kind value) with
  | none => return ()
  | some problem => throw (.misused s (.invalid shown problem))

/-- Checks one option that is given. Of several values the last one
counts. -/
def requireOption (host : Host m) (s : Signature) (r : Reading)
    (key : String) : Work m Unit :=
  match s.options.find? fun n => n.key == key, r.last? key with
  | some ⟨names, some kind, _⟩, some value =>
    requireValue host s (shownNames names) kind value
  | _, _ => pure ()

/-- Checks the arguments in their places: the texts that are too many. -/
def requirePlaces (host : Host m) (s : Signature) :
    List Positional → List String → Work m (List String)
  | [], texts => return texts
  | p :: _, [] => throw (.misused s (.missingArgument p.label))
  | p :: rest, text :: texts => do
    requireValue host s s!"'{p.label}'" p.kind text
    requirePlaces host s rest texts

/-- Checks a whole reading: a wish for help, the options that are given in
the order in which they are, the arguments, the options that have to be
given, and that there is nothing else. -/
def requireReading (host : Host m) (s : Signature) (r : Reading) :
    Work m Unit := do
  if r.has help.key then throw (.helped s)
  (r.given.map (·.1)).eraseDups.forM (requireOption host s r)
  let others ← requirePlaces host s s.positional r.places
  if let some n := s.named.find? fun n => n.required && !r.has n.key then
    throw (.misused s (.missingOption n.names))
  if !others.isEmpty && s.rest.isNone then
    throw (.misused s (.unexpected others))

/-- Reads and checks the texts behind a command. -/
def reading (host : Host m) (s : Signature) (texts : List String) :
    Work m Reading := do
  match s.read texts with
  | .error mistake => throw (.misused s mistake)
  | .ok r =>
    requireReading host s r
    return r

end Toolsmith.Command
