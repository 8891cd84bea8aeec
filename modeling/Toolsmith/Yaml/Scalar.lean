/-
The three forms of a scalar: quoted, plain, and the block below a `|` or a
`>`. Each reader takes the place where the scalar begins and answers with
its text and the place after it. Lines inside a scalar are folded: one break
becomes a space, and of several breaks the first one is dropped.
-/
import Toolsmith.Number.Read
import Toolsmith.Yaml.Cursor

namespace Toolsmith.Yaml

open Text

/-- What a break and the breaks after it fold into. -/
def foldBreaks (first more : List Char) : List Char :=
  if first != ['\n'] then first ++ more
  else if more.isEmpty then [' ']
  else more

-- ============================================================== quoted

/-- The character that a one-letter escape stands for. -/
def simpleEscape? : Char → Option Char
  | '0' => some '\x00'
  | 'a' => some '\x07'
  | 'b' => some '\x08'
  | 't' => some '\t'
  | '\t' => some '\t'
  | 'n' => some '\n'
  | 'v' => some '\x0b'
  | 'f' => some '\x0c'
  | 'r' => some '\r'
  | 'e' => some '\x1b'
  | ' ' => some ' '
  | '"' => some '"'
  | '\\' => some '\\'
  | '/' => some '/'
  | 'N' => some '\x85'
  | '_' => some '\xa0'
  | 'L' => some '\u2028'
  | 'P' => some '\u2029'
  | _ => none

/-- How many hexadecimal digits follow the letter of an escape. -/
def escapeWidth? : Char → Option Nat
  | 'x' => some 2
  | 'u' => some 4
  | 'U' => some 8
  | _ => none

/-- The character of an escaped code point. -/
def escapedChar (n : Nat) : Except Fault Char :=
  if 0x80000000 ≤ n then .error (.scalar .huge)
  else if 0x110000 ≤ n then .error (.scalar .noValue)
  else .ok (ofCodePoint n)

/-- Reads `count` hexadecimal digits. -/
def hexNumber (count : Nat) (c : Cursor) : Except Fault (Nat × Cursor) :=
  let digits := c.rest.take count
  match digits.mapM hexValue? with
  | some values =>
    if digits.length == count then
      .ok (Number.ofDigits 16 values, c.forward count)
    else .error .token
  | none => .error .token

/-- Inside quotes after a break: skips blanks and collects the further
breaks. A document may not end here. The first argument bounds the number
of lines. -/
def quotedBreaks : Nat → Cursor → Except Fault (List Char × Cursor)
  | 0, _ => .error .token
  | fuel + 1, c =>
    if c.atDocumentMark then .error .token
    else
      let c := c.skipWhile fun x => x == ' ' || x == '\t'
      match c.takeBreak with
      | ([], c) => .ok ([], c)
      | (first, c) => do
        let (more, c) ← quotedBreaks fuel c
        return (first ++ more, c)

/-- Reads a quoted scalar up to its closing quote; the first argument bounds
the number of its characters. -/
def quotedRest (double : Bool) :
    Nat → Cursor → Except Fault (List Char × Cursor)
  | 0, _ => .error .token
  | fuel + 1, c =>
    match c.rest with
    | [] => .error .token
    | '\'' :: '\'' :: _ =>
      if double then do
        let (more, last) ← quotedRest double fuel (c.forward 1)
        return ('\'' :: more, last)
      else do
        let (more, last) ← quotedRest double fuel (c.forward 2)
        return ('\'' :: more, last)
    | x :: rest =>
      if x == (if double then '"' else '\'') then .ok ([], c.step)
      else if double && x == '\\' then
        match rest with
        | [] => .error .token
        | e :: _ =>
          match simpleEscape? e, escapeWidth? e with
          | some plain, _ => do
            let (more, last) ← quotedRest double fuel (c.forward 2)
            return (plain :: more, last)
          | none, some width => do
            let (n, c) ← hexNumber width (c.forward 2)
            let escaped ← escapedChar n
            let (more, last) ← quotedRest double fuel c
            return (escaped :: more, last)
          | none, none =>
            if isBreak e then do
              let (breaks, c) ← quotedBreaks c.limit c.step.takeBreak.2
              let (more, last) ← quotedRest double fuel c
              return (breaks ++ more, last)
            else .error .token
      else if x == ' ' || x == '\t' || isBreak x then
        let (blanks, c) := c.takeWhile fun x => x == ' ' || x == '\t'
        match c.takeBreak with
        | ([], c) => do
          let (more, last) ← quotedRest double fuel c
          return (blanks ++ more, last)
        | (first, c) => do
          let (breaks, c) ← quotedBreaks c.limit c
          let (more, last) ← quotedRest double fuel c
          return (foldBreaks first breaks ++ more, last)
      else do
        let (more, last) ← quotedRest double fuel c.step
        return (x :: more, last)

/-- Reads a quoted scalar from its opening quote on. -/
def quoted (double : Bool) (c : Cursor) :
    Except Fault (List Char × Cursor) :=
  quotedRest double c.limit c.step

-- =============================================================== plain

/-- A plain scalar ends before the next character: a gap, a colon that a
gap follows, or, inside brackets, a mark of the brackets. -/
def endsPlain (inBrackets : Bool) (c : Char) (next : Option Char) : Bool :=
  isGap (some c)
    || (c == ':' && (isGap next
        || (inBrackets && (next.map ",[]\x7b\x7d".toList.contains).getD false)))
    || (inBrackets && ",?[]\x7b\x7d".toList.contains c)

/-- The length of the word at the start of a text. -/
def plainLength (inBrackets : Bool) : List Char → Nat
  | [] => 0
  | c :: rest =>
    if endsPlain inBrackets c rest.head? then 0
    else plainLength inBrackets rest + 1

/-- After the first break behind a plain word: collects the further breaks.
There is no answer if a document ends here. -/
def plainBreaks : Nat → Cursor → Option (List Char) × Cursor
  | 0, c => (some [], c)
  | fuel + 1, c =>
    if c.atDocumentMark then (none, c)
    else
      let c := c.skipSpaces
      match c.takeBreak with
      | ([], c) => (some [], c)
      | (first, c) =>
        let (more, c) := plainBreaks fuel c
        (more.map (first ++ ·), c)

/-- The blanks behind a plain word as they count if another word follows,
the place after them, and whether they hold a break. Nothing is left of them
if a document ends there. -/
def plainGap (c : Cursor) : List Char × Cursor × Bool :=
  let (spaces, c) := c.takeWhile (· == ' ')
  match c.takeBreak with
  | ([], c) => (spaces, c, false)
  | (first, c) =>
    match plainBreaks c.limit c with
    | (none, c) => ([], c, true)
    | (some more, c) => (foldBreaks first more, c, true)

/-- Reads the words of a plain scalar that stand at `indent` or deeper; the
first argument bounds their number, and `gap` stands in front of the next
word. The flag in the answer says that a break follows the last word. -/
def plainWords (inBrackets : Bool) (indent : Int) :
    Nat → List Char → Bool → Cursor → List Char × Cursor × Bool
  | 0, _, newLine, c => ([], c, newLine)
  | fuel + 1, gap, newLine, c =>
    let size := plainLength inBrackets c.rest
    if c.head == some '#' || size == 0 then ([], c, newLine)
    else
      let word := gap ++ c.rest.take size
      let (gap, c, newLine) := plainGap (c.forward size)
      if gap.isEmpty || c.head == some '#'
          || (!inBrackets && (c.column : Int) < indent) then
        (word, c, newLine)
      else
        let (more, last, newLine) :=
          plainWords inBrackets indent fuel gap newLine c
        (word ++ more, last, newLine)

/-- Reads a plain scalar. -/
def plain (inBrackets : Bool) (indent : Int) (c : Cursor) :
    List Char × Cursor × Bool :=
  plainWords inBrackets indent c.limit [] false c

-- =============================================================== block

/-- What becomes of the breaks at the end of a block. -/
inductive Chomping where
  | strip
  | clip
  | keep
  deriving DecidableEq

/-- The chomping that a character asks for. -/
def chomping? : Option Char → Option Chomping
  | some '-' => some .strip
  | some '+' => some .keep
  | _ => none

/-- The indentation that a digit asks for; it may not be zero. -/
def indentation? (c : Option Char) : Except Fault (Option Nat) :=
  match c with
  | some x =>
    if x == '0' then .error .token
    else if isAsciiDigit x then .ok (some (x.toNat - 48))
    else .ok none
  | none => .ok none

/-- The chomping and the indentation behind the mark of a block, in either
order. -/
def blockHeader (c : Cursor) :
    Except Fault (Chomping × Option Nat × Cursor) := do
  let (chomp, size, c) ←
    match chomping? c.head with
    | some chomp => do
      let size ← indentation? (c.peek 1)
      pure (chomp, size, c.forward (if size.isSome then 2 else 1))
    | none => do
      match ← indentation? c.head with
      | none => pure (Chomping.clip, none, c)
      | some size =>
        match chomping? (c.peek 1) with
        | some chomp => pure (chomp, some size, c.forward 2)
        | none => pure (Chomping.clip, some size, c.forward 1)
  if isSpace c.head then return (chomp, size, c) else .error .token

/-- Skips the spaces up to a column. -/
def skipIndent (indent : Nat) : Nat → Cursor → Cursor
  | 0, c => c
  | fuel + 1, c =>
    if c.column < indent && c.head == some ' ' then
      skipIndent indent fuel c.step
    else c

/-- Collects the breaks of empty lines, skipping up to `indent` spaces on
each line. -/
def blockBreaks (indent : Nat) : Nat → Cursor → List Char × Cursor
  | 0, c => ([], c)
  | fuel + 1, c =>
    let c := skipIndent indent c.limit c
    match c.takeBreak with
    | ([], c) => ([], c)
    | (first, c) =>
      let (more, c) := blockBreaks indent fuel c
      (first ++ more, c)

/-- Collects the breaks of empty lines and measures the widest indentation
among them and the first line with text. -/
def blockIndent : Nat → Nat → Cursor → List Char × Nat × Cursor
  | 0, widest, c => ([], widest, c)
  | fuel + 1, widest, c =>
    if c.head == some ' ' then
      let c := c.step
      blockIndent fuel (max widest c.column) c
    else
      match c.takeBreak with
      | ([], c) => ([], widest, c)
      | (first, c) =>
        let (more, widest, c) := blockIndent fuel widest c
        (first ++ more, widest, c)

/-- A line with text begins at the indentation of the block. -/
def atBlockLine (indent : Nat) (c : Cursor) : Bool :=
  c.column == indent && !c.rest.isEmpty

/-- What stands for the break between two lines of a block, in front of the
breaks of the empty lines between them. -/
def blockJoint (folded leads : Bool) (ending breaks : List Char)
    (next : Option Char) : List Char :=
  let leadsNext := !(next == some ' ' || next == some '\t')
  if folded && ending == ['\n'] && leads && leadsNext then
    if breaks.isEmpty then [' '] else []
  else ending

/-- Reads the lines of a block. `breaks` holds the breaks in front of the
next line. The answer keeps the last line's break and the breaks behind it
apart from the text. -/
def blockLines (folded : Bool) (indent : Nat) :
    Nat → List Char → Cursor →
      List Char × List Char × List Char × Cursor
  | 0, breaks, c => ([], [], breaks, c)
  | fuel + 1, breaks, c =>
    if !atBlockLine indent c then ([], [], breaks, c)
    else
      let leads := !(c.head == some ' ' || c.head == some '\t')
      let (line, c) := c.takeWhile (!isBreak ·)
      let (ending, c) := c.takeBreak
      let (further, c) := blockBreaks indent c.limit c
      if atBlockLine indent c then
        let joint := blockJoint folded leads ending further c.head
        let (more, final, last, c) := blockLines folded indent fuel further c
        (breaks ++ line ++ joint ++ more, final, last, c)
      else (breaks ++ line, ending, further, c)

/-- Reads a block scalar from its mark on; `parent` is the indentation of
the collection around it. -/
def block (folded : Bool) (parent : Int) (c : Cursor) :
    Except Fault (List Char × Cursor) := do
  let (chomp, size, c) ← blockHeader c.step
  let c ← c.finishLine
  let least := (parent + 1).toNat.max 1
  let fuel := c.limit
  let (breaks, indent, c) :=
    match size with
    | none =>
      let (breaks, widest, c) := blockIndent fuel 0 c
      (breaks, max least widest, c)
    | some n =>
      let indent := least + n - 1
      let (breaks, c) := blockBreaks indent fuel c
      (breaks, indent, c)
  let (text, final, last, c) := blockLines folded indent fuel breaks c
  let tail :=
    match chomp with
    | .strip => []
    | .clip => final
    | .keep => final ++ last
  return (text ++ tail, c)

end Toolsmith.Yaml
