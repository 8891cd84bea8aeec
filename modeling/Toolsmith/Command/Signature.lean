/-
What a command takes: options that have names, and arguments that have
places.
-/
import Toolsmith.Value.Literal

namespace Toolsmith.Command

/-- What the value of a parameter has to be. -/
inductive Kind where
  | text
  | number
  /-- One of some words. -/
  | word (words : List String)
  /-- One of some words in any case. -/
  | anyCase (words : List String)
  /-- A file that is there. -/
  | file
  /-- A directory, or nothing yet. -/
  | directory
  deriving DecidableEq, Repr

/-- An option: its names, and what kind of value it takes, if it takes
one. -/
structure Named where
  names : List String
  kind : Option Kind
  required : Bool := false
  deriving DecidableEq, Repr

/-- The name that an option is kept under, which is its last one. -/
def Named.key (n : Named) : String := n.names.getLastD ""

/-- An argument: its label and the kind of its value. -/
structure Positional where
  label : String
  kind : Kind
  deriving DecidableEq, Repr

/-- What a command takes. A command that holds others has a label for them,
and its options end where the first other text begins. -/
structure Signature where
  path : List String
  named : List Named
  positional : List Positional
  rest : Option String := none
  deriving DecidableEq, Repr

/-- The option that asks for help. -/
def help : Named := ⟨["--help"], none, false⟩

namespace Signature

/-- All options, with the one that asks for help. -/
def options (s : Signature) : List Named := s.named ++ [help]

/-- The option of a name. -/
def option? (s : Signature) (name : String) : Option Named :=
  s.options.find? fun n => n.names.contains name

/-- A name is short if it has one dash and one character. -/
def isShort (name : String) : Bool := name.length == 2

/-- The long names of all options. -/
def longNames (s : Signature) : List String :=
  s.options.flatMap fun n => n.names.filter fun name => !isShort name

/-- The words of the command itself. -/
def command (s : Signature) : String := " ".intercalate s.path

/-- The line that tells how the command is used. -/
def usage (s : Signature) : String :=
  let labels := s.positional.map (·.label) ++ s.rest.toList
  " ".intercalate (["Usage:", s.command, "[OPTIONS]"] ++ labels)

end Signature

end Toolsmith.Command
