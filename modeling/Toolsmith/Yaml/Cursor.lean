/-
A place in a YAML text, the characters that end words and lines there, and
what can be wrong with a text.
-/
import Toolsmith.Text.Surrogate

namespace Toolsmith.Yaml

open Text (isLone)

-- ============================================================== faults

/-- What is wrong with a scalar whose tag promises a certain value. -/
inductive ScalarFault where
  /-- The text has no value under its tag. -/
  | noValue
  /-- A number has no digits at all. -/
  | empty
  /-- The text is none of the words for a truth value. -/
  | unknownWord
  /-- The text is no moment in time. -/
  | noMoment
  /-- A moment is asked of what is no text. -/
  | noText
  /-- An escape names a number far beyond the code points. -/
  | huge
  deriving DecidableEq, Repr

/-- Why a text is no YAML document with a value. -/
inductive Fault where
  /-- A character that no document may hold. -/
  | character
  /-- The characters form no token. -/
  | token
  /-- The tokens form no document. -/
  | grammar
  /-- A name is used twice or not defined, or the text has two documents. -/
  | reference
  /-- Collections stand in one another deeper than is read. -/
  | tooDeep
  /-- A node has no value under its tag. -/
  | meaning
  /-- A scalar breaks the promise of its tag. -/
  | scalar (cause : ScalarFault)
  deriving DecidableEq, Repr

-- ========================================================== characters

/-- Characters that a document may hold. -/
def isAllowed (c : Char) : Bool :=
  let n := c.toNat
  n == 0x09 || n == 0x0a || n == 0x0d || (0x20 ≤ n && n ≤ 0x7e)
    || n == 0x85 || (0xa0 ≤ n && n ≤ 0xfffd)
    || (0x10000 ≤ n && !isLone c)

/-- Characters that end a line. -/
def isBreak (c : Char) : Bool :=
  c == '\n' || c == '\r' || c == '\x85' || c == '\u2028' || c == '\u2029'

/-- The line ends here: at a break or at the end of the text. -/
def endsLine : Option Char → Bool
  | none => true
  | some c => isBreak c

/-- A space, the end of the line or the end of the text. -/
def isSpace (c : Option Char) : Bool := c == some ' ' || endsLine c

/-- A space, a tab, the end of the line or the end of the text. -/
def isGap (c : Option Char) : Bool := isSpace c || c == some '\t'

-- ============================================================== places

/-- A place in a text: the characters to come, how many went before, and
the line and column, both counted from zero. The number of characters to
come is below `limit`, which is the same everywhere in a text. -/
structure Cursor where
  rest : List Char
  offset : Nat
  line : Nat
  column : Nat
  limit : Nat

namespace Cursor

/-- The place at the start of a text. -/
def start (s : List Char) : Cursor := ⟨s, 0, 0, 0, s.length + 1⟩

/-- The character `n` places on. -/
def peek (c : Cursor) (n : Nat) : Option Char := c.rest[n]?

/-- The next character. -/
def head (c : Cursor) : Option Char := c.rest.head?

/-- The place after the next character. A carriage return before a line
feed leaves the ending of the line to it, and a byte order mark takes no
column. -/
def step (c : Cursor) : Cursor :=
  match c.rest with
  | [] => c
  | x :: rest =>
    if isBreak x && !(x == '\r' && rest.head? == some '\n') then
      ⟨rest, c.offset + 1, c.line + 1, 0, c.limit⟩
    else if x == '\ufeff' then
      ⟨rest, c.offset + 1, c.line, c.column, c.limit⟩
    else ⟨rest, c.offset + 1, c.line, c.column + 1, c.limit⟩

/-- The place `n` characters on. -/
def forward : Nat → Cursor → Cursor
  | 0, c => c
  | n + 1, c => forward n c.step

/-- The characters from here on for which `p` holds, and the place after
them. -/
def takeWhile (p : Char → Bool) (c : Cursor) : List Char × Cursor :=
  let run := c.rest.takeWhile p
  (run, forward run.length c)

/-- The place after the characters for which `p` holds. -/
def skipWhile (p : Char → Bool) (c : Cursor) : Cursor := (c.takeWhile p).2

/-- The place after the spaces. -/
def skipSpaces (c : Cursor) : Cursor := c.skipWhile (· == ' ')

/-- Reads one line break: the characters that it stands for, none if there
is no break here. The usual breaks all stand for a line feed. -/
def takeBreak (c : Cursor) : List Char × Cursor :=
  match c.rest with
  | '\r' :: '\n' :: _ => (['\n'], forward 2 c)
  | x :: _ =>
    if x == '\u2028' || x == '\u2029' then ([x], c.step)
    else if isBreak x then (['\n'], c.step)
    else ([], c)
  | [] => ([], c)

/-- The mark of three characters stands here, and a gap follows it. -/
def atMark (mark : List Char) (c : Cursor) : Bool :=
  mark.isPrefixOf c.rest && isGap (c.peek 3)

/-- A mark that begins or ends a document stands here. -/
def atDocumentMark (c : Cursor) : Bool :=
  c.atMark "---".toList || c.atMark "...".toList

/-- Skips spaces, a comment and the line break after them; anything else on
the line is refused. -/
def finishLine (c : Cursor) : Except Fault Cursor :=
  let c := c.skipSpaces
  let c := if c.head == some '#' then c.skipWhile (!isBreak ·) else c
  if endsLine c.head then .ok c.takeBreak.2 else .error .token

end Cursor

end Toolsmith.Yaml
