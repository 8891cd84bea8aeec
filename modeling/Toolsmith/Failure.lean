/-
Everything that can end an operation without a result, as causes, and the
wording of those that have one.
-/
import Toolsmith.Encoding.Charset
import Toolsmith.Json.Reader
import Toolsmith.Json.Writer
import Toolsmith.Shape
import Toolsmith.Value.Literal
import Toolsmith.Yaml.Cursor

namespace Toolsmith

/-- Why a document is no description of an API. -/
inductive SpecFault where
  /-- The text is neither JSON nor YAML, for the given reason. -/
  | unreadable (reason : String)
  | notMapping
  | noTitle
  | noPaths
  deriving DecidableEq, Repr

/-- The wording of a fault of a description. -/
def SpecFault.message : SpecFault → String
  | unreadable reason => s!"Failed to parse Swagger file: {reason}"
  | notMapping =>
    "Failed to parse Swagger file: document root is not a mapping"
  | noTitle =>
    "Invalid Swagger/OpenAPI specification: missing info.title"
  | noPaths => "Invalid Swagger/OpenAPI specification: missing paths"

/-- How a value can be put to a use that it has not. -/
inductive Misuse where
  /-- The kind of value does not have the operation. -/
  | kind
  /-- A mapping does not have the key. -/
  | key
  /-- A value does not have the member. -/
  | member
  /-- The value is out of what the operation takes. -/
  | value
  /-- A number is too large. -/
  | size
  /-- A place lies outside a list or a text. -/
  | place
  /-- An integer has more decimal digits than are read. -/
  | digits (count : Nat)
  /-- An integer has more decimal digits than are written. -/
  | width
  /-- Lists or mappings stand in one another deeper than is read. -/
  | depth (isMapping : Bool)
  /-- A text for octets holds lone surrogates. -/
  | lone (run : Text.Lone)
  deriving DecidableEq, Repr

/-- The wording of a misuse that can reach a reader. -/
def Misuse.message : Misuse → String
  | size => "int too large to convert to float"
  | digits count => Number.tooManyDigits count
  | width => Number.tooWide
  | depth isMapping => Json.tooDeepMessage isMapping
  | lone run => run.message
  | _ => ""

/-- Why a file or a directory cannot be read or made. -/
inductive FileFault where
  | absent
  | notDirectory
  | isDirectory
  | taken
  | nameTooLong
  | other (message : String)
  deriving DecidableEq, Repr

/-- The wording of a fault with a file. -/
def FileFault.message : FileFault → String
  | absent => "no such file or directory"
  | notDirectory => "not a directory"
  | isDirectory => "is a directory"
  | taken => "file exists"
  | nameTooLong => "file name too long"
  | other m => m

/-- Why an operation has no result. -/
inductive Failure where
  | specification (fault : SpecFault)
  /-- The description has no operations. -/
  | empty
  /-- The settings do not allow the operation. -/
  | configuration (message : String)
  /-- A completion backend failed. -/
  | completion (message : String)
  /-- A completion backend refused the credentials. -/
  | authentication (message : String)
  /-- A value does not have the shape of a record. -/
  | shape (record : String) (complaints : List Shape.Complaint)
  /-- A command line parameter that is no `key=value`. -/
  | parameter (text : String)
  /-- No code is generated for the target. -/
  | target (name : String)
  | misuse (how : Misuse)
  /-- A text is no JSON. -/
  | json
  /-- A report cannot be written. -/
  | report (fault : Json.WriteFault)
  /-- A text is no YAML document. -/
  | yaml (fault : Yaml.Fault)
  /-- A program text does not follow the grammar. -/
  | program
  /-- An environment variable has a value that cannot be decoded. -/
  | environment
  /-- A file or a directory cannot be used. -/
  | file (fault : FileFault)
  /-- The body of a response cannot be read as text. -/
  | unreadable (fault : ReadingFault)
  /-- Something outside failed, with a message of its own. -/
  | outside (message : String)
  deriving Repr

namespace Failure

/-- The wording of a failure; those that only name a kind of mistake have
none. -/
def message : Failure → String
  | specification fault => fault.message
  | empty => "Specification declares no operations under paths"
  | configuration m => m
  | completion m => m
  | authentication m => m
  | parameter text => s!"Expected key=value, got '{text}'"
  | target name => s!"Unknown target: {name}"
  | outside m => m
  | unreadable fault => fault.message
  | misuse how => how.message
  | file fault => fault.message
  | shape record complaints =>
    record ++ ": " ++ "; ".intercalate (complaints.map fun c =>
      ".".intercalate c.path ++ " (" ++ c.code.name ++ ")")
  | environment => "an environment variable cannot be decoded"
  | report fault => s!"Error serializing to JSON: {fault.message}"
  | json | yaml _ | program => ""

/-- A value in running text, if its integers can be written. -/
def ofDisplay (v : Value) : Except Failure (List Char) :=
  if v.isWritable then .ok v.display else .error (misuse .width)

/-- A run of lone surrogates where octets are needed, as a failure. -/
def ofLone {α : Type} : Except Text.Lone α → Except Failure α :=
  Except.mapError fun run => misuse (.lone run)

/-- A JSON text that cannot be read, as a failure. -/
def ofJson : Json.Fault → Failure
  | .malformed _ _ => json
  | .integerTooLong digits => misuse (.digits digits)
  | .tooDeep isMapping => misuse (.depth isMapping)

/-- A checked record or its complaints as a failure. -/
def ofChecked {α : Type} (record : String) :
    Shape.Checked α → Except Failure α
  | .ok a => .ok a
  | .refused complaints => .error (shape record complaints)

end Failure

end Toolsmith
