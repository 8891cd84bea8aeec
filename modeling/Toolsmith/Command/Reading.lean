/-
Reading the texts behind a command: which options they give, with which
values, and what stands in the places of arguments.
-/
import Toolsmith.Command.Mistake
import Toolsmith.Text.Similar

namespace Toolsmith.Command

/-- What the texts behind a command give: options under their keys, in
order, and the other texts. A switch has an empty value. -/
structure Reading where
  given : List (String × String)
  places : List String
  deriving DecidableEq, Repr

namespace Reading

/-- Nothing. -/
def empty : Reading := ⟨[], []⟩

/-- A reading with some options in front. -/
def withGiven (options : List (String × String)) (r : Reading) : Reading :=
  { r with given := options ++ r.given }

/-- A reading with a place in front. -/
def withPlace (text : String) (r : Reading) : Reading :=
  { r with places := text :: r.places }

/-- An option is given. -/
def has (r : Reading) (key : String) : Bool := r.given.any (·.1 == key)

/-- All values of an option. -/
def all (r : Reading) (key : String) : List String :=
  (r.given.filter (·.1 == key)).map (·.2)

/-- The value of an option: the one that is given last. -/
def last? (r : Reading) (key : String) : Option String :=
  (r.all key).getLast?

end Reading

/-- What one text gives: options, and perhaps an option that waits for its
value, under the name that it was given by. -/
structure Item where
  given : List (String × String)
  waiting : Option (String × String)
  deriving DecidableEq, Repr

namespace Signature

/-- Reads a long option. Its value may follow behind an equals sign. -/
def longItem (n : Named) (name : String) (attached : Option String) :
    Except Mistake Item :=
  match n.kind, attached with
  | some _, some value => .ok ⟨[(n.key, value)], none⟩
  | some _, none => .ok ⟨[], some (name, n.key)⟩
  | none, none => .ok ⟨[(n.key, "")], none⟩
  | none, some _ => .error (.takesNoValue name)

/-- Reads short options that stand together. The first one that takes a
value takes the rest of the text, or the next text. -/
def shortItem (s : Signature) : List Char → Except Mistake Item
  | [] => .ok ⟨[], none⟩
  | c :: rest =>
    let name := String.ofList ['-', c]
    match s.option? name with
    | none => .error (.unknownOption name [])
    | some n =>
      match n.kind with
      | some _ =>
        if rest.isEmpty then .ok ⟨[], some (name, n.key)⟩
        else .ok ⟨[(n.key, String.ofList rest)], none⟩
      | none => do
        let item ← shortItem s rest
        return { item with given := (n.key, "") :: item.given }

/-- Reads a text that begins with a dash. -/
def item (s : Signature) (text : String) : Except Mistake Item :=
  let cs := text.toList
  let name := String.ofList (cs.takeWhile (· != '='))
  let attached :=
    match cs.dropWhile (· != '=') with
    | [] => none
    | _ :: value => some (String.ofList value)
  match (s.option? name).filter fun _ => !isShort name with
  | some n => longItem n name attached
  | none =>
    if "--".toList.isPrefixOf cs then
      .error (.unknownOption name (Text.similarTo name s.longNames))
    else s.shortItem (cs.drop 1)

/-- A text gives options: it begins with a dash and does not end there. -/
def isItem (text : String) : Bool :=
  text.toList.head? == some '-' && 1 < text.length

/-- Reads the texts behind a command, where `waiting` is an option that the
next text is the value of. Two dashes end the options. -/
def readFrom (s : Signature) :
    Option (String × String) → List String → Except Mistake Reading
  | none, [] => .ok .empty
  | some (name, _), [] => .error (.needsValue name)
  | some (_, key), value :: rest => do
    return (← readFrom s none rest).withGiven [(key, value)]
  | none, text :: rest =>
    if text == "--" then .ok ⟨[], rest⟩
    else if isItem text then do
      let found ← s.item text
      return (← readFrom s found.waiting rest).withGiven found.given
    else if s.rest.isSome then .ok ⟨[], text :: rest⟩
    else do return (← readFrom s none rest).withPlace text

/-- Reads the texts behind a command. -/
def read (s : Signature) (texts : List String) : Except Mistake Reading :=
  s.readFrom none texts

end Signature

end Toolsmith.Command
