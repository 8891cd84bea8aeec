/-
Mistakes in the use of a command, their wording, and the ways in which a
command can end early.
-/
import Toolsmith.Command.Signature
import Toolsmith.Encoding.SystemText

namespace Toolsmith.Command

/-- A text in quotes, as mistakes show it. -/
def quoted (s : String) : String :=
  String.ofList (Value.literal (.text s))

/-- A path in quotes, as mistakes show it. -/
def quotedPath (path : String) : String := quoted (SystemText.shown path)

/-- What is wrong with the value of a parameter. -/
inductive Problem where
  | notWord (value : String) (words : List String)
  | notNumber (value : String)
  | noFile (path : String)
  | isDirectory (path : String)
  | isFile (path : String)
  | noPair (text : String)
  | notJson (reason : String)
  deriving DecidableEq, Repr

/-- The wording of a problem. -/
def Problem.message : Problem → String
  | notWord value words =>
    s!"{quoted value} is not one of "
      ++ ", ".intercalate (words.map quoted) ++ "."
  | notNumber value => s!"{quoted value} is not a valid float."
  | noFile path => s!"File {quotedPath path} does not exist."
  | isDirectory path => s!"File {quotedPath path} is a directory."
  | isFile path => s!"Directory {quotedPath path} is a file."
  | noPair text => (Failure.parameter text).message
  | notJson reason => s!"Invalid JSON: {reason}"

/-- A mistake in the use of a command. -/
inductive Mistake where
  | unknownOption (name : String) (similar : List String)
  | unknownCommand (name : String) (similar : List String)
  | needsValue (name : String)
  | takesNoValue (name : String)
  | missingOption (names : List String)
  | missingArgument (label : String)
  | missingCommand
  | unexpected (texts : List String)
  | invalid (parameter : String) (problem : Problem)
  deriving DecidableEq, Repr

/-- A hint at what may have been meant. -/
def hint : List String → String
  | [] => ""
  | [name] => s!" Did you mean {quoted name}?"
  | names =>
    " (Did you mean one of: " ++ ", ".intercalate (names.map quoted) ++ "?)"

/-- The names of an option, as mistakes show them. -/
def shownNames (names : List String) : String :=
  " / ".intercalate (names.map fun name => s!"'{name}'")

/-- The wording of a mistake. -/
def Mistake.message : Mistake → String
  | unknownOption name similar =>
    s!"No such option {quoted name}." ++ hint similar
  | unknownCommand name similar =>
    s!"No such command {quoted name}." ++ hint similar
  | needsValue name => s!"Option {quoted name} requires an argument."
  | takesNoValue name => s!"Option {quoted name} does not take a value."
  | missingOption names => s!"Missing option {shownNames names}."
  | missingArgument label => s!"Missing argument '{label}'."
  | missingCommand => "Missing command."
  | unexpected [text] => s!"Got unexpected extra argument ({text})"
  | unexpected texts =>
    "Got unexpected extra arguments (" ++ " ".intercalate texts ++ ")"
  | invalid parameter problem =>
    s!"Invalid value for {parameter}: {problem.message}"

/-- How a command ends before its work is done. -/
inductive Ending where
  /-- It was asked for help. -/
  | helped (s : Signature)
  /-- It was not used as it has to be. -/
  | misused (s : Signature) (mistake : Mistake)
  /-- It refuses to go on. -/
  | refused (message : String)
  /-- What it did was no success, as its output says already. -/
  | unsuccessful
  /-- Something failed that it does not deal with. -/
  | failed (failure : Failure)
  deriving Repr

namespace Ending

/-- The exit status. -/
def status : Ending → Nat
  | helped _ => 0
  | misused _ _ => 2
  | refused _ | unsuccessful | failed _ => 1

/-- What is reported as an error, with an escape for every lone
surrogate. -/
def report (e : Ending) : String :=
  let text :=
    match e with
    | helped _ | unsuccessful | failed _ => ""
    | refused message => s!"Error: {message}\n"
    | misused s mistake =>
      s!"{s.usage}\nTry '{s.command} --help' for help.\n\n"
        ++ s!"Error: {mistake.message}\n"
  String.ofList (Text.escapeLone text.toList)

/-- A failure ends a command: those about descriptions, settings and
backends refuse, all others are not dealt with. -/
def ofFailure (failure : Failure) : Ending :=
  match failure with
  | .specification _ | .empty | .configuration _ | .completion _
  | .authentication _ => refused failure.message
  | _ => failed failure

end Ending

end Toolsmith.Command
