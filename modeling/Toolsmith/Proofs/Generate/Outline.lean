/-
What a source says at its top level, read off its text alone: the names that
its statements bind, and the table that sends the names of tools to handlers.

The text is cut into words, literals and marks. Comments are skipped, brackets
have to close in order, and what stands on an indented row belongs to the
statement above it and is left out. A text is not read at all if it holds what
would have to be understood to be cut at the right places: a bare slash or a
template in a template in JavaScript, a literal of three quotes in Python, a
backslash or a character beyond ASCII outside of literals and comments.
-/
import Mathlib.Init
import Toolsmith.Generate.Package
import Toolsmith.Script.Reader
import Toolsmith.Text.Class

namespace Toolsmith.Generate.Outline

open Text

-- ============================================================== tokens

/-- What a source is made of. A literal is what stands between its quotes. -/
inductive Piece where
  | word (text : String)
  | literal (body : String)
  | mark (c : Char)
  deriving DecidableEq, Repr

/-- A piece, and in how many brackets it stands; a bracket stands outside of
itself. -/
structure Token where
  piece : Piece
  depth : Nat
  deriving DecidableEq, Repr

/-- Where a reader is: at the start of a row, between tokens, in a word, behind
a slash, in a comment up to the end of the row, in one up to its mark or behind
a star there, in a literal, behind a backslash or between braces in it, or right
behind an empty one. -/
inductive Mode where
  | start
  | code
  | word (text : List Char)
  | slash
  | row
  | block
  | star
  | literal (quote : Char) (body : List Char)
  | escaped (quote : Char) (body : List Char)
  | hole (body : List Char)
  | closed (quote : Char)
  deriving DecidableEq, Repr

/-- A reader: where it is, the brackets that it waits for, innermost first, and
whether the row is indented. -/
structure Reader where
  mode : Mode
  awaited : List Char
  indented : Bool
  deriving DecidableEq, Repr

/-- The characters that end a row. -/
def isBreak (t : Target) (c : Char) : Bool :=
  c == '\n' || c == '\r'
    || (t == .javascript && (c == '\u2028' || c == '\u2029'))

/-- The characters that words are made of. -/
def isWordPart (c : Char) : Bool := isNameChar c || c == '$'

/-- The quotes; the last one is that of templates. -/
def isQuote (t : Target) (c : Char) : Bool :=
  c == '"' || c == '\'' || (t == .javascript && c == '\x60')

/-- The bracket that closes an opening one. -/
def closing? : Char → Option Char
  | '(' => some ')'
  | '[' => some ']'
  | '\x7b' => some '\x7d'
  | _ => none

namespace Reader

variable (t : Target) (r : Reader)

/-- The reader somewhere else. -/
def enter (m : Mode) : Reader := { r with mode := m }

/-- A piece as a token, unless the row is indented. -/
def token (p : Piece) : List Token :=
  if r.indented then [] else [⟨p, r.awaited.length⟩]

/-- The end of a row. In Python it is a mark, outside of brackets. -/
def endRow : Reader × List Token :=
  if t == .python && r.awaited.isEmpty then
    (⟨.start, [], false⟩, r.token (.mark '\n'))
  else (r.enter .code, [])

/-- Reads a character between tokens. -/
def between (c : Char) : Option (Reader × List Token) :=
  if isWordPart c then some (r.enter (.word [c]), [])
  else if c == ' ' || c == '\t' then some (r.enter .code, [])
  else if isBreak t c then some (r.endRow t)
  else if isQuote t c then some (r.enter (.literal c []), [])
  else if t == .javascript && c == '/' then some (r.enter .slash, [])
  else if t == .python && c == '#' then some (r.enter .row, [])
  else if c == '\\' || c.toNat < 0x20 || 0x7f ≤ c.toNat then none
  else
    match closing? c with
    | some last =>
      some (⟨.code, last :: r.awaited, r.indented⟩, r.token (.mark c))
    | none =>
      if c == ')' || c == ']' || c == '\x7d' then
        match r.awaited with
        | last :: outer =>
          let outside : Reader := ⟨.code, outer, r.indented⟩
          if c == last then some (outside, outside.token (.mark c)) else none
        | [] => none
      else some (r.enter .code, r.token (.mark c))

/-- Reads a character of a literal. -/
def inLiteral (quote : Char) (body : List Char) (c : Char) :
    Option (Reader × List Token) :=
  if c == quote then
    some (r.enter (if body.isEmpty then .closed quote else .code),
      r.token (.literal (String.ofList body)))
  else if c == '\\' then some (r.enter (.escaped quote body), [])
  else if quote == '\x60' && c == '\x7b' then
    some (r.enter (.hole (body ++ [c])), [])
  else if quote != '\x60' && (c == '\n' || c == '\r') then none
  else some (r.enter (.literal quote (body ++ [c])), [])

/-- Reads a character. -/
def step (c : Char) : Option (Reader × List Token) :=
  match r.mode with
  | .start =>
    if c == '#' then some (r.enter .row, [])
    else if t == .python && (c == ' ' || c == '\t') then
      some (⟨.code, r.awaited, true⟩, [])
    else r.between t c
  | .code => r.between t c
  | .word w =>
    if isWordPart c then some (r.enter (.word (w ++ [c])), [])
    else
      (r.between t c).map fun (next, tokens) =>
        (next, r.token (.word (String.ofList w)) ++ tokens)
  | .slash =>
    if c == '/' then some (r.enter .row, [])
    else if c == '*' then some (r.enter .block, [])
    else none
  | .row => if isBreak t c then some (r.endRow t) else some (r, [])
  | .block => some (r.enter (if c == '*' then .star else .block), [])
  | .star =>
    let next : Mode :=
      if c == '/' then .code else if c == '*' then .star else .block
    some (r.enter next, [])
  | .literal quote body => r.inLiteral quote body c
  | .escaped quote body =>
    some (r.enter (.literal quote (body ++ ['\\', c])), [])
  | .hole body =>
    if c == '\x7d' then some (r.enter (.literal '\x60' (body ++ [c])), [])
    else if isQuote t c || c == '\x7b' || c == '\\' then none
    else some (r.enter (.hole (body ++ [c])), [])
  | .closed quote => if c == quote then none else r.between t c

/-- Reads a text: where the reader is behind it, and the tokens in it. -/
def read (r : Reader) : List Char → Option (Reader × List Token)
  | [] => some (r, [])
  | c :: rest => do
    let (next, tokens) ← r.step t c
    let (last, more) ← next.read rest
    return (last, tokens ++ more)

end Reader

/-- The reader between two statements of the top level. -/
def top : Target → Reader
  | .javascript => ⟨.code, [], false⟩
  | .python => ⟨.start, [], false⟩

/-- The tokens of a source that ends behind a statement. -/
def tokens? (t : Target) (source : List Char) : Option (List Token) := do
  let (last, tokens) ← (⟨.start, [], false⟩ : Reader).read t source
  if last == top t then some tokens else none

-- ========================================================== statements

/-- The token ends a statement of the top level. -/
def Token.ends (t : Target) (k : Token) : Bool :=
  k.depth == 0 &&
    match t with
    | .javascript => k.piece == .mark ';' || k.piece == .mark '\x7d'
    | .python => k.piece == .mark '\n'

/-- The tokens of each statement, with the one that ends it. -/
def statements (t : Target) : List Token → List (List Token)
  | [] => []
  | k :: rest =>
    if k.ends t then [k] :: statements t rest
    else
      match statements t rest with
      | [] => [[k]]
      | first :: more => (k :: first) :: more

/-- The words among pieces. -/
def Piece.word? : Piece → Option String
  | .word w => some w
  | _ => none

/-- The names that the clauses of an import bind: in each the word behind `as`,
or else the first one. -/
def importedNames (clauses : List Piece) : List String :=
  (clauses.splitOn (.mark ',')).filterMap fun clause =>
    let words := clause.filterMap Piece.word?
    match words.dropWhile (· != "as") with
    | _ :: name :: _ => some name
    | _ => words.head?

/-- The words that declare the name behind them. -/
def declarators : Target → List String
  | .javascript => ["const", "let", "var", "function", "class"]
  | .python => ["def", "class"]

/-- The names that a statement binds: an import, a declaration, or in Python an
assignment. Any other statement binds none. -/
def bound (t : Target) : List Piece → List String
  | .word "async" :: rest => bound t rest
  | .word "import" :: clauses => importedNames clauses
  | .word "from" :: rest =>
    if t == .python then
      importedNames ((rest.dropWhile (· != .word "import")).drop 1)
    else []
  | .word first :: .word name :: _ =>
    if (declarators t).contains first then [name] else []
  | .word name :: .mark '=' :: value :: _ =>
    if t == .python && value != .mark '=' then [name] else []
  | _ => []

/-- The entries of a table up to its end, each a literal with a word. -/
def entries? : List Piece → Option (List (String × String))
  | .literal key :: .mark ':' :: .word value :: .mark ',' :: rest =>
    (entries? rest).map ((key, value) :: ·)
  | .mark '\x7d' :: _ => some []
  | _ => none

/-- The entries of the dispatch table, if the statement makes it. -/
def table? : List Piece → Option (List (String × String))
  | .word "const" :: .word "HANDLERS" :: .mark '=' :: .mark '\x7b' :: rest =>
    entries? rest
  | .word "HANDLERS" :: .mark '=' :: .mark '\x7b' :: rest => entries? rest
  | _ => none

end Outline

open Outline

/-- What a source says at its top level: the names that its statements bind, in
order, and the dispatch tables that they make. -/
structure Outline where
  names : List String
  tables : List (List (String × String))
  deriving DecidableEq, Repr

namespace Outline

/-- What statements say. -/
def ofStatements (t : Target) (all : List (List Token)) : Outline :=
  let pieces := all.map (·.map Token.piece)
  ⟨pieces.flatMap (bound t), pieces.filterMap table?⟩

/-- What a source says, if it can be read. -/
def of? (t : Target) (source : String) : Option Outline :=
  (tokens? t source.toList).map fun tokens =>
    ofStatements t (statements t tokens)

end Outline

end Toolsmith.Generate
