/-
The program on a real system. It reads and writes files and talks on a
terminal; nothing here decides what to do. There is no way to the network,
so requests and completions end in trouble that says so.
-/
import Toolsmith.Command.Start

namespace Toolsmith.Program

/-- A fault of the system with a file. -/
def fileFault (e : IO.Error) : FileFault :=
  match e with
  | .noFileOrDirectory .. => .absent
  | .alreadyExists .. => .taken
  | .inappropriateType .. => .notDirectory
  | e => .other (toString e)

/-- Does something with files. -/
def onFiles {α : Type} (act : IO α) : IO (Except FileFault α) := do
  match ← act.toBaseIO with
  | .ok a => return .ok a
  | .error e => return .error (fileFault e)

/-- What there is under a path. A directory can be opened but not read. -/
def entry (path : String) : IO (Option Command.Entry) := do
  match ← (IO.FS.Handle.mk path .read).toBaseIO with
  | .error _ => return none
  | .ok handle =>
    match ← (handle.read 1).toBaseIO with
    | .ok _ => return some .file
    | .error _ => return some .directory

/-- The variables that hold settings, in lower and in upper case. -/
def environment : IO (List (String × String)) := do
  let lower := Settings.names
  let upper := lower.map fun name => String.ofList (Text.upper name.toList)
  let found ← (lower ++ upper).mapM fun name => do
    return (← IO.getEnv name).map (name, ·)
  return found.filterMap id

/-- Prints at once. -/
def printTo (stream : IO.FS.Stream) (text : String) : IO Unit := do
  stream.putStr text
  stream.flush

/-- The trouble that stands for every connection. -/
def noNetwork : String := "the network is not available"

/-- The system as a host, which keeps the level of reports in `level`. -/
def host (level : IO.Ref String) : IO (Command.Host IO) := do
  let out ← IO.getStdout
  let err ← IO.getStderr
  return {
    environment := ← environment
    entry := entry
    read := fun path => onFiles (IO.FS.readFile path)
    makeDirectory := fun path => onFiles (IO.FS.createDirAll path)
    write := fun path content => onFiles (IO.FS.writeFile path content)
    print := printTo out
    warn := printTo err
    configure := fun name => level.set (Log.setup name).level
    report := fun entries => do
      let limit ← level.get
      for e in entries do
        if Log.admits limit e then printTo err (e.line ++ "\n")
    send := fun _ _ => return .error ⟨"ConnectError", noNetwork⟩
    complete := fun _ => return .error (.other noNetwork) }

/-- Hears lines until the session or the input ends. -/
partial def talk (host : Command.Host IO) (input : IO.FS.Stream)
    (s : Command.Session) : Command.Work IO Unit := do
  host.print Command.Session.prompt
  let line ← input.getLine
  if !line.isEmpty then
    match ← s.hear host line with
    | none => return ()
    | some next => talk host input next

/-- Reports how a command ended, and gives its exit status. -/
def finish (host : Command.Host IO) (ending : Command.Ending) :
    IO UInt32 := do
  match ending with
  | .helped s => host.print (s.usage ++ "\n")
  | .failed failure => host.complain s!"Failed: {failure.message}"
  | _ => host.warn ending.report
  return ending.status.toUInt32

/-- Runs the command that the arguments name. -/
def run (args : List String) : IO UInt32 := do
  let level ← IO.mkRef "WARNING"
  let host ← host level
  let work : Command.Work IO Unit := do
    match ← Command.start host args with
    | none => return ()
    | some session => talk host (← IO.getStdin) session
  match ← work.run with
  | .ok _ => return 0
  | .error ending => finish host ending

end Toolsmith.Program

/-- Runs the program. -/
def main (args : List String) : IO UInt32 := Toolsmith.Program.run args
