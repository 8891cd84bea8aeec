/-
The tokens of a Python program text. Indentation makes tokens of its own;
inside brackets neither it nor the ends of lines count. A text that cannot
be cut into tokens is at fault behind the tokens in front of that place.
-/
import Toolsmith.Text.Class
import Toolsmith.Text.Search

namespace Toolsmith.Script

open Text

/-- The sorts of tokens. Keywords are names, and marks of all kinds are
operators. -/
inductive TokenSort where
  | name
  | number
  | string
  | operator
  | newline
  | indent
  | dedent
  | finish
  deriving DecidableEq, Repr

/-- A token: its text, the line it begins on, and how many brackets are
open behind it. -/
structure Token where
  sort : TokenSort
  text : String
  line : Nat
  depth : Nat
  deriving DecidableEq, Repr

/-- What is wrong behind the last token. `bracket` is the innermost open
bracket with its line. Some faults show only to a reader that asks for the
next token; the others are `loud`. -/
structure TokenFault where
  message : String
  line : Nat
  loud : Bool
  bracket : Option (Char × Nat)
  deriving DecidableEq, Repr

-- ============================================================== places

/-- A place in a text that is being cut into tokens: the characters to
come, the line, the open brackets and the open indentations, innermost
first, and the tokens so far, last one first. An indentation has two
measures, with tabs as far as the next eighth column or one column wide. -/
structure Place where
  rest : List Char
  line : Nat
  brackets : List (Char × Nat)
  indents : List (Nat × Nat)
  tokens : List Token

namespace Place

/-- The line of what comes next; the end of the text belongs to the last
line. -/
def currentLine (p : Place) : Nat :=
  if p.rest.isEmpty then p.line - 1 else p.line

/-- A loud fault here. -/
def fault {α : Type} (p : Place) (message : String) :
    Except TokenFault α :=
  .error ⟨message, p.currentLine, true, p.brackets.head?⟩

/-- A silent fault here. -/
def silentFault {α : Type} (p : Place) (message : String) :
    Except TokenFault α :=
  .error ⟨message, p.currentLine, false, p.brackets.head?⟩

/-- The text ends too early here: inside a bracket that is still open, if
there is one. -/
def early {α : Type} (p : Place) (message : String) : Except TokenFault α :=
  match p.brackets with
  | (c, line) :: _ =>
    .error ⟨s!"'{c}' was never closed", line, false, some (c, line)⟩
  | [] => p.silentFault message

/-- Adds a token that takes the place up to `rest`. -/
def push (p : Place) (sort : TokenSort) (text rest : List Char) : Place :=
  let token : Token :=
    ⟨sort, String.ofList text, p.currentLine, p.brackets.length⟩
  { p with
    rest := rest
    line := p.line + text.count '\n'
    tokens := token :: p.tokens }

/-- Adds the token that the next `size` characters make. -/
def pushNext (p : Place) (sort : TokenSort) (size : Nat) : Place :=
  p.push sort (p.rest.take size) (p.rest.drop size)

end Place

/-- The breaks of a text, each as one line feed, and one at its end. A
carriage return and a line feed at the end leave room for another line. -/
def plainBreaks : List Char → List Char
  | [] => ['\n']
  | ['\n'] => ['\n']
  | ['\r'] => ['\n']
  | '\r' :: '\n' :: rest => '\n' :: plainBreaks rest
  | '\r' :: rest => '\n' :: plainBreaks rest
  | c :: rest => c :: plainBreaks rest

-- ========================================================= indentation

/-- Follows a backslash at the end of a line to the next line. -/
def continuation (p : Place) : Except TokenFault Place :=
  match p.rest with
  | '\n' :: rest =>
    let next := { p with rest := rest, line := p.line + 1 }
    if rest.isEmpty then next.early "unexpected EOF while parsing"
    else .ok next
  | _ =>
    p.silentFault "unexpected character after line continuation character"

/-- Characters of which the indentation of a line may be made. -/
def isIndentation (c : Char) : Bool :=
  c == ' ' || c == '\t' || c == '\x0c' || c == '\\' || c == '\n'

/-- Measures the blanks at the start of a line in both measures. A
backslash joins the next line; then the blanks in front of it count. -/
def measure : Nat → Nat × Nat → Option Nat → Place →
    Except TokenFault ((Nat × Nat) × Place)
  | 0, size, _, p => .ok (size, p)
  | fuel + 1, (column, other), joined, p =>
    let next (rest : List Char) : Place := { p with rest := rest }
    match p.rest with
    | ' ' :: rest =>
      measure fuel (column + 1, other + 1) joined (next rest)
    | '\t' :: rest =>
      measure fuel ((column / 8 + 1) * 8, other + 1) joined (next rest)
    | '\x0c' :: rest => measure fuel (0, 0) joined (next rest)
    | '\\' :: rest => do
      let joined := if joined.getD 0 == 0 then some column else joined
      measure fuel (column, other) joined (← continuation (next rest))
    | _ =>
      match joined with
      | some n => .ok (if n == 0 then (column, other) else (n, n), p)
      | none => .ok ((column, other), p)

/-- The wording for indentation that depends on the width of tabs. -/
def tabMessage : String :=
  "inconsistent use of tabs and spaces in indentation"

/-- Closes the indentations that are deeper than the column. -/
def dedent (size : Nat × Nat) : List (Nat × Nat) → Place →
    Except TokenFault Place
  | [], p =>
    if size.1 != 0 then
      p.silentFault
        "unindent does not match any outer indentation level"
    else if size.2 != 0 then p.silentFault tabMessage
    else .ok { p with indents := [] }
  | (column, other) :: outer, p =>
    if size.1 < column then
      dedent size outer (p.push .dedent [] p.rest)
    else if size.1 != column then
      p.silentFault
        "unindent does not match any outer indentation level"
    else if size.2 != other then p.silentFault tabMessage
    else .ok { p with indents := (column, other) :: outer }

/-- Opens or closes indentations at the first token of a line. -/
def indentTo (size : Nat × Nat) (p : Place) : Except TokenFault Place :=
  let (column, other) := p.indents.headD (0, 0)
  if size.1 == column then
    if size.2 != other then p.silentFault tabMessage else .ok p
  else if column < size.1 then
    if 99 ≤ p.indents.length then
      p.silentFault "too many levels of indentation"
    else if size.2 ≤ other then p.silentFault tabMessage
    else
      .ok { p.push .indent [] p.rest with indents := size :: p.indents }
  else dedent size p.indents p

-- ========================================================= identifiers

/-- A character that an identifier may seem to hold. -/
def seemsNameChar (c : Char) : Bool := isNameChar c || 0x80 ≤ c.toNat

/-- A code point as four or more upper-case hexadecimal digits. -/
def codePointName (c : Char) : String :=
  let n := c.toNat
  let width := if n < 0x10000 then 4 else if n < 0x100000 then 5 else 6
  String.ofList ((hexText width n).map Char.toUpper)

/-- The wording for a character that has no place in a program. -/
def badCharacter (c : Char) : String :=
  if isPrintable c then
    "invalid character '" ++ String.singleton c ++ "' (U+"
      ++ codePointName c ++ ")"
  else "invalid non-printable character U+" ++ codePointName c

/-- The first character of a word that keeps it from being an
identifier. -/
def misfit? : List Char → Option Char
  | [] => none
  | c :: rest =>
    if isIdentifierStart c then rest.find? (!isIdentifierChar ·) else some c

/-- The letters that may stand in front of a string: `u` alone, or `b` or
`f` and `r` in either order; `seen` are those in front. The answer is how
many they are, and the text from the quote on. -/
def quoteAfterLetters : List Char → List Char → Option (Nat × List Char)
  | _, [] => none
  | seen, c :: rest =>
    let l := c.toLower
    let fits :=
      if l == 'b' || l == 'f' then seen.all (· == 'r')
      else if l == 'u' then seen.isEmpty
      else if l == 'r' then !seen.contains 'r' && !seen.contains 'u'
      else false
    if !fits then none
    else
      match rest with
      | '"' :: _ => some (seen.length + 1, rest)
      | '\'' :: _ => some (seen.length + 1, rest)
      | _ => quoteAfterLetters (l :: seen) rest

-- ============================================================= numbers

/-- What follows the digits of a number, whose underscores have to stand
between digits; `none` if one does not. -/
def afterDigits (digit : Char → Bool) : List Char → Option (List Char)
  | '_' :: c :: rest => if digit c then afterDigits digit rest else none
  | ['_'] => none
  | c :: rest => if digit c then afterDigits digit rest else some (c :: rest)
  | [] => some []

/-- Words that may follow a number without a blank if they end there. -/
def followers : List (List Char) :=
  ["and", "else", "for", "or", "not"].map String.toList

/-- Words that may follow a number without a blank even as the beginning of
a longer one. -/
def openFollowers : List (List Char) :=
  ["if", "in", "is"].map String.toList

/-- A text goes on with one of the words that may follow a number. -/
def beginsFollower (s : List Char) : Bool :=
  openFollowers.any (·.isPrefixOf s)
    || followers.contains (s.takeWhile seemsNameChar)

/-- No identifier may run into a number of the given kind. -/
def numberEnd (kind : String) (s : List Char) :
    Except String (List Char) :=
  let glued := (s.head?.map seemsNameChar).getD false
  if glued && !beginsFollower s then .error s!"invalid {kind} literal"
  else .ok s

/-- The digits of a number with the mark of a base in front. -/
def basedNumber (kind : String) (digit : Char → Bool) (s : List Char) :
    Except String (List Char) :=
  let body := if s.head? == some '_' then s.drop 1 else s
  let strange (c : Option Char) : Option String :=
    match c with
    | some c =>
      if isAsciiDigit c && !digit c && kind != "hexadecimal" then
        some s!"invalid digit '{c}' in {kind} literal"
      else none
    | none => none
  match body with
  | c :: rest =>
    if digit c then
      match afterDigits digit rest with
      | some left =>
        match strange left.head? with
        | some message => .error message
        | none => numberEnd kind left
      | none =>
        let left := (rest.dropWhile fun c => digit c || c == '_')
        .error ((strange left.head?).getD s!"invalid {kind} literal")
    else .error ((strange (some c)).getD s!"invalid {kind} literal")
  | [] => .error s!"invalid {kind} literal"

/-- The wording for a decimal number with a stray underscore or letter. -/
def badDecimal : String := "invalid decimal literal"

/-- Decimal digits after the first one. -/
def decimalTail (s : List Char) : Except String (List Char) :=
  match afterDigits isAsciiDigit s with
  | some rest => .ok rest
  | none => .error badDecimal

/-- The end of a decimal number, perhaps with the mark of an imaginary
one. -/
def decimalEnd (s : List Char) : Except String (List Char) :=
  match s with
  | 'j' :: rest => numberEnd "imaginary" rest
  | 'J' :: rest => numberEnd "imaginary" rest
  | _ => numberEnd "decimal" s

/-- The exponent of a number, if there is one, and the end. -/
def exponentPart (s : List Char) : Except String (List Char) :=
  let opens (c : Char) : Bool := c == 'e' || c == 'E'
  let digitFirst (s : List Char) : Bool :=
    (s.head?.map isAsciiDigit).getD false
  match s with
  | c :: rest =>
    if opens c then
      match rest with
      | sign :: digits =>
        if sign == '+' || sign == '-' then
          if digitFirst digits then do decimalEnd (← decimalTail digits)
          else .error badDecimal
        else if isAsciiDigit sign then do decimalEnd (← decimalTail rest)
        else numberEnd "decimal" s
      | [] => numberEnd "decimal" s
    else decimalEnd s
  | [] => .ok s

/-- The part of a number behind its point. -/
def fractionPart (s : List Char) : Except String (List Char) :=
  if (s.head?.map isAsciiDigit).getD false then do
    exponentPart (← decimalTail s)
  else exponentPart s

/-- What follows a number that begins with a digit. -/
def number (s : List Char) : Except String (List Char) :=
  match s with
  | '0' :: c :: rest =>
    match c.toLower with
    | 'x' => basedNumber "hexadecimal" (fun c => (hexValue? c).isSome) rest
    | 'o' => basedNumber "octal" (fun c => '0' ≤ c && c ≤ '7') rest
    | 'b' => basedNumber "binary" (fun c => c == '0' || c == '1') rest
    | _ => do
      let left ← decimalTail (c :: rest)
      let digits := (c :: rest).take ((c :: rest).length - left.length)
      let nonzero := digits.any fun d => d != '0' && d != '_'
      match left with
      | '.' :: left => fractionPart left
      | _ =>
        if (left.head?.map "eEjJ".toList.contains).getD false then
          exponentPart left
        else if nonzero then
          .error ("leading zeros in decimal integer literals are not "
            ++ "permitted; use an 0o prefix for octal integers")
        else numberEnd "decimal" left
  | _ :: rest => do
    match ← decimalTail rest with
    | '.' :: left => fractionPart left
    | left => exponentPart left
  | [] => .ok []

/-- The characters that a number and the word behind it are made of, where
`before` stands in front of them. A sign belongs to them behind the mark of an
exponent. -/
def numberRun (before : Char) : List Char → List Char
  | [] => []
  | c :: rest =>
    let signed := (c == '+' || c == '-') && before.toLower == 'e'
    if seemsNameChar c || c == '.' || signed then c :: numberRun c rest
    else []

-- ============================================================= strings

/-- How many characters a string of `size` quotes has behind the opening
ones, with the closing ones; `none` if it does not end. Of the closing ones
`met` have been met, and `count` characters went before. -/
def stringEnd (quote : Char) (size : Nat) :
    Nat → Nat → List Char → Option Nat
  | _, _, [] => none
  | _, _, ['\\'] => none
  | _, count, '\\' :: _ :: rest => stringEnd quote size 0 (count + 2) rest
  | met, count, c :: rest =>
    if c == quote then
      if met + 1 == size then some (count + 1)
      else stringEnd quote size (met + 1) (count + 1) rest
    else if c == '\n' && size == 1 then none
    else stringEnd quote size 0 (count + 1) rest

/-- The line on which a string that does not end is given up: the first one
with a bare break, or the last one. -/
def lostLine (size line : Nat) : List Char → Nat
  | [] => line - 1
  | ['\\'] => line
  | '\\' :: c :: rest =>
    lostLine size (if c == '\n' then line + 1 else line) rest
  | c :: rest =>
    if c == '\n' then
      if size == 1 then line else lostLine size (line + 1) rest
    else lostLine size line rest

/-- Reads a string from its quote on, where so many letters stand in front
of it. -/
def stringToken (p : Place) (letters : Nat) (fromQuote : List Char) :
    Except TokenFault Place :=
  match fromQuote with
  | q :: a :: b :: rest =>
    if a == q && b == q then
      match stringEnd q 3 0 0 rest with
      | some size => .ok (p.pushNext .string (letters + 3 + size))
      | none =>
        p.fault (s!"unterminated triple-quoted string literal "
          ++ s!"(detected at line {lostLine 3 p.line rest})")
    else if a == q then .ok (p.pushNext .string (letters + 2))
    else
      match stringEnd q 1 0 0 (a :: b :: rest) with
      | some size => .ok (p.pushNext .string (letters + 1 + size))
      | none =>
        p.fault (s!"unterminated string literal "
          ++ s!"(detected at line {lostLine 1 p.line (a :: b :: rest)})")
  | _ =>
    p.fault s!"unterminated string literal (detected at line {p.line})"

-- =========================================================== operators

/-- Operators of three characters. -/
def threeCharOperators : List (List Char) :=
  ["**=", "...", "//=", "<<=", ">>="].map String.toList

/-- Operators of two characters. -/
def twoCharOperators : List (List Char) :=
  ["!=", "%=", "&=", "**", "*=", "+=", "-=", "->", "//", "/=", ":=", "<<",
   "<=", "<>", "==", ">=", ">>", "@=", "^=", "|="].map String.toList

/-- The bracket that a closing one belongs to. -/
def opener? : Char → Option Char
  | ')' => some '('
  | ']' => some '['
  | '\x7d' => some '\x7b'
  | _ => none

/-- The wording for a closing bracket that does not fit the open one. -/
def mismatch (closing opening : Char) (line openLine : Nat) : String :=
  s!"closing parenthesis '{closing}' does not match opening parenthesis "
    ++ s!"'{opening}'" ++ (if line == openLine then "" else s!" on line {openLine}")

/-- Reads an operator that begins with `c`. -/
def operator (p : Place) (c : Char) : Except TokenFault Place :=
  if threeCharOperators.any (·.isPrefixOf p.rest) then
    .ok (p.pushNext .operator 3)
  else if twoCharOperators.any (·.isPrefixOf p.rest) then
    .ok (p.pushNext .operator 2)
  else if "([\x7b".toList.contains c then
    if 200 ≤ p.brackets.length then p.fault "too many nested parentheses"
    else
      let inside := { p with brackets := (c, p.line) :: p.brackets }
      .ok (inside.pushNext .operator 1)
  else
    match opener? c with
    | some opening =>
      match p.brackets with
      | [] => p.fault s!"unmatched '{c}'"
      | (opened, line) :: outer =>
        if opened == opening then
          .ok ({ p with brackets := outer }.pushNext .operator 1)
        else
          { p with brackets := outer }.fault (mismatch c opened p.line line)
    | none =>
      if isPrintable c then .ok (p.pushNext .operator 1)
      else
        p.fault ("invalid non-printable character U+" ++ codePointName c)

-- ============================================================= scanning

/-- Reads one token that does not begin a line, or skips what is no token.
The flag says that a new line begins. -/
def scanToken (c : Char) (p : Place) : Except TokenFault (Place × Bool) :=
  let rest := p.rest.drop 1
  if c == ' ' || c == '\t' || c == '\x0c' then
    .ok ({ p with rest := rest }, false)
  else if c == '#' then
    .ok ({ p with rest := p.rest.dropWhile (· != '\n') }, false)
  else if c == '\n' then
    let next : Place :=
      if p.brackets.isEmpty then p.push .newline ['\n'] rest
      else { p with rest := rest, line := p.line + 1 }
    .ok (next, true)
  else if isAsciiLetter c || c == '_' || 0x80 ≤ c.toNat then
    match quoteAfterLetters [] p.rest with
    | some (letters, quote) => (stringToken p letters quote).map (·, false)
    | none =>
      let word := p.rest.takeWhile seemsNameChar
      match misfit? word with
      | some bad => p.fault (badCharacter bad)
      | none => .ok (p.push .name word (p.rest.drop word.length), false)
  else if c == '"' || c == '\'' then
    (stringToken p 0 p.rest).map (·, false)
  else if isAsciiDigit c
      || (c == '.' && (rest.head?.map isAsciiDigit).getD false) then
    let run := numberRun ' ' p.rest
    let read := if c == '.' then fractionPart (run.drop 1) else number run
    match read with
    | .ok left => .ok (p.pushNext .number (run.length - left.length), false)
    | .error message => p.fault message
  else if c == '\\' then
    (continuation { p with rest := rest }).map (·, false)
  else (operator p c).map (·, false)

/-- Begins a line: measures its indentation unless it is blank, in which
case it is skipped. The flag says that another line begins. -/
def beginLine (p : Place) : Except TokenFault (Place × Bool) := do
  let blanks := p.rest.takeWhile isIndentation
  let (size, q) ← measure (blanks.length + 1) (0, 0) none p
  let content := q.rest.dropWhile (· != '\n')
  let comment := q.rest.head? == some '#'
  if comment || q.rest.head? == some '\n' then
    return ({ q with rest := content.drop 1, line := q.line + 1 }, true)
  else if q.brackets.isEmpty then
    return (← indentTo size q, false)
  else return (q, false)

/-- Reads tokens up to the end of the text or a fault; the first argument
bounds their number. -/
def scan : Nat → Bool → Place → List Token × Option TokenFault
  | 0, _, p => (p.tokens.reverse, none)
  | fuel + 1, atStart, p =>
    let step : Except TokenFault (Option (Place × Bool)) :=
      if atStart then (beginLine p).map some
      else
        match p.rest with
        | [] => if p.brackets.isEmpty then .ok none else p.early ""
        | c :: _ => (scanToken c p).map some
    match step with
    | .error fault => (p.tokens.reverse, some fault)
    | .ok none => ((p.push .finish [] []).tokens.reverse, none)
    | .ok (some (next, atStart)) => scan fuel atStart next

/-- The tokens of a program text and what is wrong behind the last one. -/
def tokens (s : List Char) : List Token × Option TokenFault :=
  let body := plainBreaks s
  scan (3 * body.length + 4) true ⟨body, 1, [], [], []⟩

end Toolsmith.Script
