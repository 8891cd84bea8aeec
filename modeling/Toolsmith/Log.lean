/-
What is reported while the library works, and how headers are masked before
they are reported.
-/
import Toolsmith.Text.Case
import Toolsmith.Text.Search

namespace Toolsmith.Log

open Text

/-- How much a report matters. -/
inductive Level where
  | info
  | warning
  deriving DecidableEq, Repr

/-- The word for a level. -/
def Level.name : Level → String
  | info => "INFO"
  | warning => "WARNING"

/-- One report. -/
structure Entry where
  level : Level
  text : String
  deriving DecidableEq, Repr

/-- The report with its level in front. -/
def Entry.line (e : Entry) : String := s!"{e.level.name} {e.text}"

/-- How reports are written from some level on. -/
structure Setup where
  level : String
  format : String
  deriving DecidableEq, Repr

/-- The setup for a level, whose name counts in upper case. -/
def setup (level : String) : Setup :=
  { level := String.ofList (upper level.toList)
    format := "%(asctime)s %(levelname)s %(name)s %(message)s" }

/-- A report is written when reports are limited to a level, by its upper
case name. -/
def admits (level : String) (e : Entry) : Bool :=
  match e.level with
  | .info => level == "DEBUG" || level == "INFO"
  | .warning => level == "DEBUG" || level == "INFO" || level == "WARNING"

-- ============================================================= masking

/-- The ASCII letter that a character counts as when case does not
matter. -/
def foldedChar (c : Char) : Char :=
  if c == '\u212a' then 'k'
  else if c == '\u017f' then 's'
  else if c == '\u0130' || c == '\u0131' then 'i'
  else c.toLower

/-- Words that mark a header as one that carries a secret. -/
def sensitiveWords : List (List Char) :=
  ["authorization", "token", "secret", "apikey", "api_key", "api-key",
   "password", "cookie"].map String.toList

/-- The name of a header says that its value is a secret. -/
def isSensitive (name : List Char) : Bool :=
  let folded := name.map foldedChar
  sensitiveWords.any fun w => contains w folded

/-- What stands for a secret. -/
def mask : String := "***REDACTED***"

/-- The headers with a mask for every secret. -/
def redact (headers : List (String × String)) : List (String × String) :=
  headers.map fun (name, value) =>
    (name, if isSensitive name.toList then mask else value)

end Toolsmith.Log
