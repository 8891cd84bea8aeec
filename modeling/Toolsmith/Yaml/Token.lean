/-
The tokens of a YAML text. Block structure shows in the indentation alone,
so the scanner adds tokens where a block opens or closes. A colon may turn
out to belong to a key that was read already: places where such a key can
begin are kept as pending, and the tokens that announce the key are put in
there once the colon is met.
-/
import Toolsmith.Encoding.Utf8
import Toolsmith.Yaml.Scalar

namespace Toolsmith.Yaml

open Text

/-- What a line that begins with a percent sign declares. -/
inductive Directive where
  | version (major : Nat)
  | tagHandle (handle expansion : List Char)
  | other
  deriving DecidableEq, Repr

/-- A token. A tag is a handle, unless it is written out, and a suffix. -/
inductive Token where
  | directive (d : Directive)
  | documentStart
  | documentEnd
  | blockSequence
  | blockMapping
  | blockEnd
  | openSequence
  | closeSequence
  | openMapping
  | closeMapping
  | item
  | comma
  | key
  | value
  | alias (name : List Char)
  | anchor (name : List Char)
  | tag (handle : Option (List Char)) (suffix : List Char)
  | scalar (text : List Char) (plain : Bool)
  | finish
  deriving DecidableEq, Repr

-- ======================================================= names and tags

/-- A character of the name of an anchor, a directive or a tag handle. -/
def isWord (c : Char) : Bool :=
  isAsciiLetter c || isAsciiDigit c || c == '-' || c == '_'

/-- A character of a tag. -/
def isUriChar (c : Char) : Bool :=
  isAsciiLetter c || isAsciiDigit c
    || "-;/?:@&=+$,_.!~*'()[]%".toList.contains c

/-- Reads percent triples, which are octets in UTF-8. -/
def uriOctets : Nat → Cursor → Except Fault (List UInt8 × Cursor)
  | 0, c => .ok ([], c)
  | fuel + 1, c =>
    if c.head == some '%' then do
      let (n, c) ← hexNumber 2 c.step
      let (more, c) ← uriOctets fuel c
      return (UInt8.ofNat n :: more, c)
    else .ok ([], c)

/-- Reads the characters of a tag; the first argument bounds their
number. -/
def uriRest : Nat → Cursor → Except Fault (List Char × Cursor)
  | 0, c => .ok ([], c)
  | fuel + 1, c =>
    match c.head with
    | none => .ok ([], c)
    | some x =>
      if x == '%' then do
        let (octets, c) ← uriOctets (fuel + 1) c
        match Utf8.decode? octets with
        | none => .error .token
        | some text =>
          let (more, c) ← uriRest fuel c
          return (text ++ more, c)
      else if isUriChar x then do
        let (more, c) ← uriRest fuel c.step
        return (x :: more, c)
      else .ok ([], c)

/-- Reads the characters of a tag, at least one. -/
def uri (c : Cursor) : Except Fault (List Char × Cursor) := do
  let (text, last) ← uriRest c.limit c
  if last.offset == c.offset then .error .token else return (text, last)

/-- Reads a tag handle: `!`, or a word between two of them. -/
def tagHandle (c : Cursor) : Except Fault (List Char × Cursor) :=
  if c.head != some '!' then .error .token
  else
    let (word, next) := c.step.takeWhile isWord
    if next.head == some '!' then .ok ('!' :: word ++ ['!'], next.step)
    else if word.isEmpty && next.head == some ' ' then .ok (['!'], next)
    else .error .token

/-- The word of a tag has a second `!` before the next gap, so that it
begins with a handle of its own. -/
def hasHandle : List Char → Bool
  | [] => false
  | c :: rest =>
    if isSpace (some c) then false else c == '!' || hasHandle rest

/-- Reads a tag from its `!` on. -/
def tag (c : Cursor) : Except Fault (Token × Cursor) := do
  let (token, c) ←
    match c.peek 1 with
    | some '<' => do
      let (suffix, c) ← uri (c.forward 2)
      if c.head == some '>' then pure (Token.tag none suffix, c.step)
      else .error .token
    | next =>
      if isGap next then pure (Token.tag none ['!'], c.step)
      else do
        let (handle, c) ←
          if hasHandle (c.rest.drop 1) then tagHandle c
          else pure (['!'], c.step)
        let (suffix, c) ← uri c
        pure (Token.tag (some handle) suffix, c)
  if isSpace c.head then return (token, c) else .error .token

/-- Reads the name of an anchor or an alias behind its mark. -/
def anchorName (c : Cursor) : Except Fault (List Char × Cursor) :=
  let (name, c) := c.step.takeWhile isWord
  let closed :=
    isGap c.head || (c.head.map "?:,]\x7d%@\x60".toList.contains).getD false
  if name.isEmpty || !closed then .error .token else .ok (name, c)

-- ========================================================== directives

/-- Reads a decimal number, at least one digit. -/
def decimal (c : Cursor) : Except Fault (Nat × Cursor) :=
  let (digits, c) := c.takeWhile isAsciiDigit
  if digits.isEmpty then .error .token
  else .ok (Number.ofDigits 10 (digits.map fun d => d.toNat - 48), c)

/-- Reads the number of a version directive. -/
def versionDirective (c : Cursor) : Except Fault (Directive × Cursor) := do
  let (major, c) ← decimal c.skipSpaces
  if c.head != some '.' then throw .token
  let (_, c) ← decimal c.step
  if isSpace c.head then return (.version major, c) else throw .token

/-- Reads the handle and the expansion of a tag directive. -/
def tagDirective (c : Cursor) : Except Fault (Directive × Cursor) := do
  let (handle, c) ← tagHandle c.skipSpaces
  if c.head != some ' ' then throw .token
  let (expansion, c) ← uri c.skipSpaces
  if isSpace c.head then return (.tagHandle handle expansion, c)
  else throw .token

/-- Reads a directive from its percent sign to the end of the line. -/
def directive (c : Cursor) : Except Fault (Token × Cursor) := do
  let (name, c) := c.step.takeWhile isWord
  if name.isEmpty || !isSpace c.head then throw .token
  let (d, c) ←
    if name == "YAML".toList then versionDirective c
    else if name == "TAG".toList then tagDirective c
    else pure (Directive.other, c.skipWhile (!isBreak ·))
  return (.directive d, ← c.finishLine)

-- ============================================================= scanner

/-- A place where a key may begin that is announced by no mark: how many
tokens stand before it, whether only a key may stand there, and the place. -/
structure Pending where
  count : Nat
  required : Bool
  offset : Nat
  line : Nat
  column : Nat

/-- The scanner between two tokens: the tokens read so far, last one first,
how many they are, the depth of brackets, the indentation of the open blocks, innermost first,
and the pending places by their depth of brackets. -/
structure Scanner where
  cursor : Cursor
  tokens : List Token
  count : Nat
  depth : Nat
  indents : List Nat
  keyAllowed : Bool
  pending : List (Nat × Pending)

namespace Scanner

/-- The scanner at the start of a text. -/
def start (s : List Char) : Scanner := ⟨.start s, [], 0, 0, [], true, []⟩

/-- The indentation of the innermost block; no block is open at `-1`. -/
def indent (s : Scanner) : Int := (s.indents.head?.map Int.ofNat).getD (-1)

/-- Adds a token at the end. -/
def push (t : Token) (s : Scanner) : Scanner :=
  { s with tokens := t :: s.tokens, count := s.count + 1 }

/-- Puts a token in with `count` tokens before it. -/
def insert (count : Nat) (t : Token) (s : Scanner) : Scanner :=
  let behind := s.count - count
  { s with
    tokens := s.tokens.take behind ++ t :: s.tokens.drop behind
    count := s.count + 1 }

/-- A pending place is out of reach: a key stays on one line and within
1024 characters. -/
def isStale (s : Scanner) (p : Pending) : Bool :=
  p.line != s.cursor.line || 1024 < s.cursor.offset - p.offset

/-- Drops the pending places that are out of reach. -/
def dropStale (s : Scanner) : Except Fault Scanner :=
  if s.pending.any fun (_, p) => s.isStale p && p.required then
    .error .token
  else .ok { s with pending := s.pending.filter fun (_, p) => !s.isStale p }

/-- Drops the pending place at this depth of brackets. -/
def dropPending (s : Scanner) : Except Fault Scanner :=
  if s.pending.any fun (d, p) => d == s.depth && p.required then
    .error .token
  else .ok { s with pending := s.pending.filter (·.1 != s.depth) }

/-- A key may begin here, if keys are allowed. -/
def markPending (s : Scanner) : Except Fault Scanner := do
  if !s.keyAllowed then return s
  let s ← s.dropPending
  let c := s.cursor
  let required := s.depth == 0 && s.indent == c.column
  let place := ⟨s.count, required, c.offset, c.line, c.column⟩
  return { s with pending := s.pending ++ [(s.depth, place)] }

/-- Closes the blocks that are indented deeper than the column. -/
def closeBlocks (column : Int) : List Nat → Scanner → Scanner
  | [], s => { s with indents := [] }
  | i :: rest, s =>
    if column < i then closeBlocks column rest (s.push .blockEnd)
    else { s with indents := i :: rest }

/-- Closes the blocks that end before the column; brackets keep all blocks
open. -/
def unwind (column : Int) (s : Scanner) : Scanner :=
  if s.depth == 0 then closeBlocks column s.indents s else s

/-- Opens a block at a column that is deeper than the open ones, announced
by a token with `count` tokens before it. -/
def openBlock (column count : Nat) (t : Token) (s : Scanner) : Scanner :=
  if s.indent < column then
    { s.insert count t with indents := column :: s.indents }
  else s

/-- Skips spaces, comments and breaks before the next token. After a break
a key may begin, outside brackets. -/
def skipSpace : Nat → Scanner → Scanner
  | 0, s => s
  | fuel + 1, s =>
    let c := s.cursor.skipSpaces
    let c := if c.head == some '#' then c.skipWhile (!isBreak ·) else c
    match c.takeBreak with
    | ([], c) => { s with cursor := c }
    | (_, c) =>
      skipSpace fuel
        { s with cursor := c, keyAllowed := s.keyAllowed || s.depth == 0 }

-- ---------------------------------------------------- kinds of token

/-- Moves on by `n` characters. -/
def advance (n : Nat) (s : Scanner) : Scanner :=
  { s with cursor := s.cursor.forward n }

/-- A mark of a document, or a directive: all blocks end before it. -/
def outermost (t : Token) (next : Cursor) (s : Scanner) :
    Except Fault Scanner := do
  let s ← (s.unwind (-1)).dropPending
  return { s.push t with cursor := next, keyAllowed := false }

/-- An opening bracket. -/
def openBracket (t : Token) (s : Scanner) : Except Fault Scanner := do
  let s ← s.markPending
  return { (s.push t).advance 1 with depth := s.depth + 1, keyAllowed := true }

/-- A closing bracket. -/
def closeBracket (t : Token) (s : Scanner) : Except Fault Scanner := do
  let s ← s.dropPending
  return { (s.push t).advance 1 with depth := s.depth - 1, keyAllowed := false }

/-- The comma between brackets. -/
def comma (s : Scanner) : Except Fault Scanner := do
  let s ← s.dropPending
  return { (s.push .comma).advance 1 with keyAllowed := true }

/-- The dash before an item of a block, or the question mark before a
key: `opening` announces the block if the mark opens one. -/
def blockMark (t opening : Token) (keyAllowed : Bool) (s : Scanner) :
    Except Fault Scanner := do
  if s.depth == 0 && !s.keyAllowed then throw .token
  let s :=
    if s.depth == 0 then
      s.openBlock s.cursor.column s.count opening
    else s
  let s ← s.dropPending
  return { (s.push t).advance 1 with keyAllowed := keyAllowed }

/-- The colon before a value. If a key is pending at this depth, the colon
is its own; otherwise the key is empty or announced by a mark. -/
def valueMark (s : Scanner) : Except Fault Scanner :=
  match s.pending.find? (·.1 == s.depth) with
  | some (_, p) =>
    let s := { s with pending := s.pending.filter (·.1 != s.depth) }
    let s := s.insert p.count .key
    let s :=
      if s.depth == 0 then s.openBlock p.column p.count .blockMapping else s
    .ok { (s.push .value).advance 1 with keyAllowed := false }
  | none => blockMark .value .blockMapping (s.depth == 0) s

/-- A token that may be a key or stand in front of one. -/
def keyLike (read : Cursor → Except Fault (Token × Cursor)) (s : Scanner) :
    Except Fault Scanner := do
  let s ← s.markPending
  let (t, c) ← read s.cursor
  return { s.push t with cursor := c, keyAllowed := false }

/-- A plain scalar. -/
def plainToken (s : Scanner) : Except Fault Scanner := do
  let s ← s.markPending
  let (text, c, newLine) := plain (s.depth != 0) (s.indent + 1) s.cursor
  return { s.push (.scalar text true) with cursor := c, keyAllowed := newLine }

/-- A block scalar. -/
def blockToken (folded : Bool) (s : Scanner) : Except Fault Scanner := do
  let s ← s.dropPending
  let (text, c) ← block folded s.indent s.cursor
  return { s.push (.scalar text false) with cursor := c, keyAllowed := true }

/-- A plain scalar may begin with this character before that one. -/
def beginsPlain (inBrackets : Bool) (c : Char) (next : Option Char) : Bool :=
  !(isGap (some c) || "-?:,[]\x7b\x7d#&*!|>'\"%@\x60".toList.contains c)
    || (!isGap next
        && (c == '-' || (!inBrackets && (c == '?' || c == ':'))))

/-- Reads the token that begins with the character `x`. -/
def scanToken (x : Char) (s : Scanner) : Except Fault Scanner :=
  let c := s.cursor
  let gapNext := isGap (c.peek 1)
  let flow := s.depth != 0
  if x == '%' && c.column == 0 then do
    let s ← (s.unwind (-1)).dropPending
    let (t, next) ← directive c
    return { s.push t with cursor := next, keyAllowed := false }
  else if c.column == 0 && c.atMark "---".toList then
    s.outermost .documentStart (c.forward 3)
  else if c.column == 0 && c.atMark "...".toList then
    s.outermost .documentEnd (c.forward 3)
  else if x == '[' then s.openBracket .openSequence
  else if x == '\x7b' then s.openBracket .openMapping
  else if x == ']' then s.closeBracket .closeSequence
  else if x == '\x7d' then s.closeBracket .closeMapping
  else if x == ',' then s.comma
  else if x == '-' && gapNext then s.blockMark .item .blockSequence true
  else if x == '?' && (flow || gapNext) then
    s.blockMark .key .blockMapping (!flow)
  else if x == ':' && (flow || gapNext) then s.valueMark
  else if x == '*' then
    s.keyLike fun c => do
      let (name, c) ← anchorName c
      return (.alias name, c)
  else if x == '&' then
    s.keyLike fun c => do
      let (name, c) ← anchorName c
      return (.anchor name, c)
  else if x == '!' then s.keyLike tag
  else if x == '|' && !flow then s.blockToken false
  else if x == '>' && !flow then s.blockToken true
  else if x == '\'' || x == '"' then
    s.keyLike fun c => do
      let (text, c) ← quoted (x == '"') c
      return (.scalar text false, c)
  else if beginsPlain flow x (c.peek 1) then s.plainToken
  else .error .token

/-- Reads the next token. The flag says that it was the last one. -/
def next (s : Scanner) : Except Fault (Scanner × Bool) := do
  let s := s.skipSpace s.cursor.limit
  let s ← s.dropStale
  let s := s.unwind s.cursor.column
  match s.cursor.head with
  | none =>
    let s ← (s.unwind (-1)).dropPending
    return (s.push .finish, true)
  | some x => return (← s.scanToken x, false)

/-- The tokens that are settled: no key is pending before them. -/
def settled (s : Scanner) : List Token :=
  let count := s.pending.foldl (fun n (_, p) => min n p.count) s.count
  s.tokens.reverse.take count

/-- Reads tokens up to the end, or up to a fault; the first argument bounds
their number. -/
def run : Nat → Scanner → List Token × Option Fault
  | 0, s => (s.settled, some .token)
  | fuel + 1, s =>
    match s.dropStale with
    | .error e => (s.settled, some e)
    | .ok s =>
      match s.next with
      | .error e => (s.settled, some e)
      | .ok (s, true) => (s.tokens.reverse, none)
      | .ok (s, false) => run fuel s

end Scanner

/-- The tokens of a text and what is wrong behind the last of them. -/
def tokens (s : List Char) : List Token × Option Fault :=
  let body := if s.head? == some '\ufeff' then s.drop 1 else s
  Scanner.run (body.length + 2) (.start body)

end Toolsmith.Yaml
