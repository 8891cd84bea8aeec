/-
Documents: texts that describe an API, read as JSON or as YAML. A document
is a mapping. Its collections may hold themselves, so what is taken out of
it is looked at through the document.
-/
import Toolsmith.Failure
import Toolsmith.Text.Path
import Toolsmith.Yaml.Meaning

namespace Toolsmith

open Text

/-- A document: its entries, and the web that they belong to. -/
structure Document where
  web : Web
  entries : List (Value × Value)
  deriving Repr

/-- A text that is no YAML, as a failure. A scalar that breaks the promise
of its tag is a misuse, like any other value that does not fit. -/
def Failure.ofYaml : Yaml.Fault → Failure
  | .scalar .noValue => misuse .value
  | .scalar .empty => misuse .place
  | .scalar .unknownWord => misuse .key
  | .scalar .noMoment => misuse .member
  | .scalar .noText => misuse .kind
  | .scalar .huge => misuse .size
  | .tooDeep => misuse (.depth false)
  | fault => yaml fault

namespace Document

-- ============================================================== formats

/-- The formats that the ending of a file name asks for. -/
inductive Format where
  | json
  | yaml
  | unknown
  deriving DecidableEq, Repr

/-- The last part of a path. -/
def baseName (path : List Char) : List Char :=
  (Path.parts path).getLastD []

/-- The ending of a file name with its dot: from the last dot on, unless
that is the first or the last character. -/
def ending (path : List Char) : List Char :=
  let name := baseName path
  let tail := (name.reverse.takeWhile (· != '.')).reverse
  let stem := name.length - tail.length - 1
  if tail.length < name.length && 0 < stem && !tail.isEmpty then '.' :: tail
  else []

/-- The format of a file. -/
def Format.ofName (path : List Char) : Format :=
  let e := String.ofList (lower (ending path))
  if e == ".json" then json
  else if e == ".yaml" || e == ".yml" then yaml
  else unknown

-- ============================================================== reading

/-- A document with a reason why it cannot be read. -/
def unreadable {α : Type} (reason : String) : Except Failure α :=
  .error (.specification (.unreadable reason))

/-- Reads a text as YAML. -/
def readYaml (text : List Char) : Except Failure Web :=
  match Yaml.readWeb text with
  | .ok w => .ok w
  | .error fault =>
    match Failure.ofYaml fault with
    | .yaml _ => unreadable "<yaml error>"
    | failure => .error failure

/-- Reads a text as JSON. -/
def readJson (text : List Char) : Except Failure Web :=
  match Json.read text with
  | .ok v => .ok (.ofValue v)
  | .error (.malformed cause offset) =>
    unreadable (Json.malformedMessage text cause offset)
  | .error fault => .error (.ofJson fault)

/-- Reads a text as JSON and, if it is malformed, as YAML. -/
def readEither (text : List Char) : Except Failure Web :=
  match Json.read text with
  | .ok v => .ok (.ofValue v)
  | .error (.malformed _ _) => readYaml text
  | .error fault => .error (.ofJson fault)

/-- Reads a text in a format. -/
def Format.read : Format → List Char → Except Failure Web
  | json => readJson
  | yaml => readYaml
  | unknown => readEither

/-- Reads a document. The name of its file decides the format; without one
it may be either. -/
def load (text : String) (filename : Option String) :
    Except Failure Document := do
  let w ← (Format.ofName ((filename.getD "").toList)).read text.toList
  match w.look w.root with
  | .map entries => return ⟨w, entries⟩
  | _ => .error (.specification .notMapping)

-- ============================================================== looking

/-- The collection that a loop stands for; another value is itself. -/
def look (d : Document) (v : Value) : Value := d.web.look v

/-- The value under a key of a part, if that is a mapping and has it. -/
def fieldOf? (d : Document) (v : Value) (name : String) : Option Value :=
  (d.look v).field? name

/-- The value under a key of a part, `null` if there is none. -/
def fieldOf (d : Document) (v : Value) (name : String) : Value :=
  (d.fieldOf? v name).getD .null

/-- The value under a key, `null` if there is none. -/
def field (name : String) (d : Document) : Value :=
  (Value.entry? name d.entries).getD .null

/-- A part as a value of its own. -/
def whole (d : Document) (v : Value) : Value := d.web.whole v

/-- A part in running text. -/
def display (d : Document) (v : Value) : Except Failure (List Char) :=
  Failure.ofDisplay (d.whole v)

/-- A part in running text. -/
def displayString (d : Document) (v : Value) : Except Failure String :=
  (d.display v).map String.ofList

/-- The document as a value. -/
def toValue (d : Document) : Value := d.web.value

end Document

end Toolsmith
