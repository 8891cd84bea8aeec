/-
Checks of generated packages: whether the sources and manifests among the
files can be read, and which tools a source declares.
-/
import Toolsmith.Generate.Package
import Toolsmith.Script.Calls

namespace Toolsmith.Generate

open Text

/-- A program text has to have octets, and no zero among them. -/
def requireText (source : List Char) : Except Failure Unit := do
  let _ ← Failure.ofLone (Utf8.encode? source)
  if source.contains '\x00' then throw (.misuse .value)

-- =============================================================== files

/-- The fault of a file, if it has one. Only files whose name has a known
ending are read, and an empty source has no fault. -/
def fileFault (name content : String) : Except Failure (Option String) :=
  if ".py".toList.isSuffixOf name.toList then
    if (strip content.toList).isEmpty then .ok none
    else do
      requireText content.toList
      match Script.read content.toList with
      | .ok _ => return none
      | .error fault =>
        return some s!"SyntaxError: {fault.message} (line {fault.line})"
  else if ".json".toList.isSuffixOf name.toList then
    match Json.read content.toList with
    | .ok _ => .ok none
    | .error (.malformed cause offset) =>
      let message := Json.malformedMessage content.toList cause offset
      .ok (some ("JSONDecodeError: " ++ message))
    | .error fault => .error (.ofJson fault)
  else .ok none

/-- The faults of files, by their names. Sources are read before
manifests. -/
def faults (files : List (String × String)) :
    Except Failure (List (String × String)) := do
  let isSource (file : String × String) : Bool :=
    ".py".toList.isSuffixOf file.1.toList
  let (sources, others) := files.partition isSource
  let found ← (sources ++ others).mapM fun (name, content) => do
    return (← fileFault name content).map (name, ·)
  return found.filterMap id

-- ======================================================= declared tools

/-- The line that opens the declaration of a tool. -/
def opensTool (line : List Char) : Bool :=
  match after? "const ".toList line with
  | none => false
  | some rest =>
    let name := rest.takeWhile isWordChar
    rest.drop name.length == " = \x7b".toList
      && "_tool".toList.isSuffixOf name && "_tool".length < name.length

/-- The quoted name in the line behind such a line. -/
def toolName? (line : List Char) : Option (List Char) := do
  let rest ← after? "  name: ".toList line
  let quoted := rest.dropLast
  guard (rest.getLast? == some ',' && quoted.head? == some '"'
    && quoted.getLast? == some '"' && 2 ≤ quoted.length)
  return quoted

/-- The quoted names of the tools that the lines of a source declare. -/
def quotedNames : List (List Char) → List (List Char)
  | [] => []
  | [_] => []
  | line :: next :: rest =>
    match toolName? next with
    | some name =>
      if opensTool line then name :: quotedNames rest
      else quotedNames (next :: rest)
    | none => quotedNames (next :: rest)

/-- The names of the tools that a source declares: of a JavaScript source
those in its declarations, of a Python source the constants under `name` in
all calls that make a tool. -/
def declaredNames (source : String) (target : Target) :
    Except Failure (List Value) :=
  match target with
  | .javascript =>
    (quotedNames (splitAt '\n' source.toList)).mapM fun quoted =>
      (Json.read quoted).mapError .ofJson
  | .python => do
    requireText source.toList
    match Script.read source.toList with
    | .error _ => throw .program
    | .ok tree =>
      (tree.constantsNamed "Tool" "name").mapM fun constant =>
        match constant with
        | .value v => .ok v
        | .other => .error (.misuse .kind)

end Toolsmith.Generate
