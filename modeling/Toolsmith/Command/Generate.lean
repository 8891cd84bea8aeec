/-
The command that writes packages. What it writes is planned first: a list of
steps, whether the sources passed their checks, and the failure that a check
may end with.
-/
import Toolsmith.Command.Load
import Toolsmith.Generate.Check
import Toolsmith.Text.Path

namespace Toolsmith.Command

open Toolsmith.Generate
open Text (Path.normal Path.within)

-- ================================================================= plan

/-- One step of writing packages. -/
inductive Step where
  | directory (path : String)
  | file (path content : String)
  | warning (text : String)
  deriving DecidableEq, Repr

/-- What is written: the steps, whether all sources passed their checks, and
the failure of a check that could not be made. -/
structure Generation where
  steps : List Step
  passed : Bool
  failure : Option Failure
  deriving Repr

namespace Generation

/-- Nothing. -/
def empty : Generation := ⟨[], true, none⟩

/-- One generation and then another one. -/
def append (g h : Generation) : Generation :=
  match g.failure with
  | some _ => g
  | none => ⟨g.steps ++ h.steps, g.passed && h.passed, h.failure⟩

/-- The steps for one target as a single text. -/
def bundled (s : Server) (output : String) (t : Target) : Generation :=
  let path := Path.within output s!"{s.id}-{t.name}.txt"
  ⟨[.file path (archive s t)], true, none⟩

/-- The warning about a file that did not pass. -/
def warningOf (t : Target) (file fault : String) : Step :=
  .warning s!"  Warning: {t.name}/{file}: {fault}"

/-- The steps for one target as separate files. -/
def separate (s : Server) (directory : String) (t : Target) : Generation :=
  let files := package s t
  match faults files with
  | .error failure => ⟨[], true, some failure⟩
  | .ok found =>
    ⟨found.map (fun (file, fault) => warningOf t file fault)
      ++ .directory directory
      :: files.map (fun (name, content) =>
          .file (Path.within directory name) content),
     found.isEmpty, none⟩

/-- The directory for one of some targets: its own one, unless it is the
only one. -/
def directoryOf (output : String) (targets : List Target) (t : Target) :
    String :=
  if 1 < targets.length then Path.within output t.name else output

/-- What is written for some targets. -/
def ofTargets (s : Server) (output : String) (bundle : Bool)
    (targets : List Target) : Generation :=
  let each (t : Target) : Generation :=
    if bundle then bundled s output t
    else separate s (directoryOf output targets t) t
  (targets.map each).foldr append empty

/-- How many files are written. -/
def written (g : Generation) : Nat :=
  g.steps.countP fun step => step matches .file _ _

/-- How the command ends after all steps. -/
def ending? (g : Generation) : Option Ending :=
  match g.failure with
  | some failure => some (.failed failure)
  | none =>
    if g.passed then none
    else some (.refused "Generated code failed validation")

end Generation

-- ============================================================== command

/-- The word for all targets. -/
def allTargets : String := "all"

/-- What `generate` takes. -/
def generateSignature : Signature :=
  { path := ["main", "generate"]
    named :=
      [⟨["-o", "--output"], some .directory, true⟩,
       ⟨["--target"],
        some (.word (Target.all.map Target.name ++ [allTargets])), false⟩,
       ⟨["--bundle"], none, false⟩]
    positional := [specification] }

/-- The targets that a reading chooses. -/
def chosenTargets (r : Reading) : List Target :=
  match (r.last? "--target").bind Target.ofName? with
  | some t => [t]
  | none => Target.all

variable {m : Type → Type} [Monad m]

/-- Takes one step. A content without octets leaves an empty file. -/
def takeStep (host : Host m) : Step → Work m Unit
  | .directory path => orFileEnd (host.makeDirectory path)
  | .warning text => host.complain text
  | .file path content => do
    match Text.Lone.find? content.toList with
    | some run =>
      orFileEnd (host.write path "")
      throw (.failed (.misuse (.lone run)))
    | none =>
      orFileEnd (host.write path content)
      host.echo s!"  Created {path}"

/-- Writes packages for a description. -/
def generate (host : Host m) (r : Reading) : Work m Unit := do
  host.echo s!"Parsing {Path.normal (place r 0)}..."
  let server ← loadServer host (place r 0)
  host.echo s!"Found {server.endpoints.length} endpoints."
  let output := Path.normal ((r.last? "--output").getD "")
  orFileEnd (host.makeDirectory output)
  let g := Generation.ofTargets server output (r.has "--bundle")
    (chosenTargets r)
  g.steps.forM (takeStep host)
  if g.failure.isNone then
    host.echo s!"Generated {g.written} files in {output}"
  if let some ending := g.ending? then throw ending

end Toolsmith.Command
