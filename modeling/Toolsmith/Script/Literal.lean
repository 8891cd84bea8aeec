/-
The values of number and string tokens. A string token has letters, quotes
and a body; the body is cut into pieces if the string is a formatted one.
-/
import Toolsmith.Encoding.Utf8
import Toolsmith.Number.Read
import Toolsmith.Script.Token
import Toolsmith.Text.Name

namespace Toolsmith.Script

open Text

-- ============================================================= numbers

/-- What a number token stands for. The value of an imaginary number is of
no use here. -/
inductive NumberValue where
  | whole (n : Nat)
  | double (x : Binary64)
  | imaginary
  deriving DecidableEq, Repr

/-- The digits of a number token behind the mark of its base. -/
def basedDigits? : List Char → Option (Nat × List Char)
  | '0' :: c :: rest =>
    match c.toLower with
    | 'x' => some (16, rest)
    | 'o' => some (8, rest)
    | 'b' => some (2, rest)
    | _ => none
  | _ => none

/-- The value of a number token. A decimal integer may have only so many
digits; the fault is their number. -/
def numberValue (token : List Char) : Except Nat NumberValue :=
  let s := token.filter (· != '_')
  match basedDigits? s with
  | some (base, digits) =>
    .ok (.whole (Number.ofDigits base (digits.filterMap hexValue?)))
  | none =>
    if s.any fun c => c == 'j' || c == 'J' then .ok .imaginary
    else if s.all isAsciiDigit then
      if Number.digitLimit < s.length then .error s.length
      else .ok (.whole (Number.ofDigits 10 (s.filterMap digitValue?)))
    else .ok (.double ((Number.float? s).getD .nan))

/-- The wording for an integer with too many digits. -/
def tooManyDigits (count : Nat) : String :=
  Number.tooManyDigits count
    ++ " - Consider hexadecimal for huge integer literals to avoid decimal "
    ++ "conversion limits."

-- ============================================================= escapes

/-- The characters that a backslash and one letter stand for. -/
def shortEscape? : Char → Option Char
  | '\\' => some '\\'
  | '\'' => some '\''
  | '"' => some '"'
  | 'a' => some '\x07'
  | 'b' => some '\x08'
  | 'f' => some '\x0c'
  | 'n' => some '\n'
  | 'r' => some '\r'
  | 't' => some '\t'
  | 'v' => some '\x0b'
  | _ => none

/-- An octal digit. -/
def isOctalDigit (c : Char) : Bool := '0' ≤ c && c ≤ '7'

/-- The octal digits at the start of a text, three at most, as a number,
and their count. -/
def octalEscape (s : List Char) : Nat × Nat :=
  let digits := (s.take 3).takeWhile isOctalDigit
  (Number.ofDigits 8 (digits.filterMap digitValue?), digits.length)

/-- How many hexadecimal digits follow the letter of an escape. -/
def hexWidth? : Char → Option Nat
  | 'x' => some 2
  | 'u' => some 4
  | 'U' => some 8
  | _ => none

/-- The wording for an escape that no character belongs to; it takes the
bytes from `first` up to `stop` of the text in ASCII. -/
def badEscape (first stop : Nat) (reason : String) : String :=
  "(unicode error) 'unicodeescape' codec can't decode "
    ++ (if stop == first + 1 then s!"byte 0x5c in position {first}"
        else s!"bytes in position {first}-{stop - 1}")
    ++ ": " ++ reason

/-- Adds characters to the front of what follows. -/
def prepend (cs : List Char) : Except String (List Char) →
    Except String (List Char)
  | .ok rest => .ok (cs ++ rest)
  | .error e => .error e

/-- How many bytes a character counts for: ten outside ASCII. -/
def escapedWidth (c : Char) : Nat := if c.toNat < 0x80 then 1 else 10

/-- How many bytes a text counts for: a backslash before a character outside
ASCII for six of them. -/
def escapedSize : List Char → Nat
  | [] => 0
  | [c] => escapedWidth c
  | c :: next :: rest =>
    if c != '\\' then escapedWidth c + escapedSize (next :: rest)
    else if next.toNat < 0x80 then 2 + escapedSize rest
    else 16 + escapedSize rest

/-- The text that a body with escapes stands for. `place` counts the bytes
in front, and the first argument bounds the length. -/
def unescapeText : Nat → Nat → List Char → Except String (List Char)
  | 0, _, _ => .ok []
  | _, _, [] => .ok []
  | _, _, ['\\'] => .ok ['\\']
  | fuel + 1, place, '\\' :: c :: rest =>
    match shortEscape? c with
    | some e => prepend [e] (unescapeText fuel (place + 2) rest)
    | none =>
      if c == '\n' then unescapeText fuel (place + 2) rest
      else if isOctalDigit c then
        let (n, count) := octalEscape (c :: rest)
        prepend [ofCodePoint n]
          (unescapeText fuel (place + 1 + count) (rest.drop (count - 1)))
      else if c == 'N' then
        match rest with
        | '\x7b' :: name =>
          let inner := name.takeWhile (· != '\x7d')
          let width := escapedSize inner
          if inner.isEmpty || inner.length == name.length then
            .error (badEscape place (place + 3 + width)
              "malformed \\N character escape")
          else
            match named? inner with
            | some c =>
              prepend [c] (unescapeText fuel (place + 4 + width)
                (name.drop (inner.length + 1)))
            | none =>
              .error (badEscape place (place + 4 + width)
                "unknown Unicode character name")
        | _ =>
          .error (badEscape place (place + 2)
            "malformed \\N character escape")
      else
        match hexWidth? c with
        | some width =>
          let digits := (rest.take width).takeWhile (hexValue? · |>.isSome)
          let stop := place + 2 + digits.length
          let n := Number.ofDigits 16 (digits.filterMap hexValue?)
          if digits.length < width then
            let form := c :: List.replicate width 'X'
            .error (badEscape place stop
              ("truncated \\" ++ String.ofList form ++ " escape"))
          else if 0x10ffff < n then
            .error (badEscape place stop "illegal Unicode character")
          else
            prepend [ofCodePoint n] (unescapeText fuel stop (rest.drop width))
        | none =>
          if c.toNat < 0x80 then
            prepend ['\\', c] (unescapeText fuel (place + 2) rest)
          else prepend ['\\', c] (unescapeText fuel (place + 16) rest)
  | fuel + 1, place, c :: rest =>
    prepend [c] (unescapeText fuel (place + escapedWidth c) rest)

/-- The octets that a body with escapes stands for; `place` counts the
characters in front. -/
def unescapeOctets : Nat → Nat → List Char → Except String (List Char)
  | 0, _, _ => .ok []
  | _, _, [] => .ok []
  | _, _, ['\\'] => .ok ['\\']
  | fuel + 1, place, '\\' :: c :: rest =>
    match shortEscape? c with
    | some e => prepend [e] (unescapeOctets fuel (place + 2) rest)
    | none =>
      if c == '\n' then unescapeOctets fuel (place + 2) rest
      else if isOctalDigit c then
        let (n, count) := octalEscape (c :: rest)
        prepend [ofCodePoint (n % 256)]
          (unescapeOctets fuel (place + 1 + count) (rest.drop (count - 1)))
      else if c == 'x' then
        let digits := (rest.take 2).takeWhile (hexValue? · |>.isSome)
        if digits.length < 2 then
          .error s!"(value error) invalid \\x escape at position {place}"
        else
          let n := Number.ofDigits 16 (digits.filterMap hexValue?)
          prepend [ofCodePoint n]
            (unescapeOctets fuel (place + 4) (rest.drop 2))
      else prepend ['\\', c] (unescapeOctets fuel (place + 2) rest)
  | fuel + 1, place, c :: rest =>
    prepend [c] (unescapeOctets fuel (place + 1) rest)

-- ============================================================= strings

/-- A string token taken apart: what its letters say, and what stands
between its quotes. -/
structure StringParts where
  raw : Bool
  octets : Bool
  formatted : Bool
  body : List Char

/-- Takes a string token apart. -/
def StringParts.ofToken (token : List Char) : StringParts :=
  let isQuote (c : Char) : Bool := c == '"' || c == '\''
  let letters := (token.takeWhile (!isQuote ·)).map Char.toLower
  let quoted := token.drop letters.length
  let width :=
    match quoted with
    | a :: b :: c :: _ :: _ => if a == b && b == c then 3 else 1
    | _ => 1
  { raw := letters.contains 'r'
    octets := letters.contains 'b'
    formatted := letters.contains 'f'
    body := (quoted.drop width).take (quoted.length - 2 * width) }

/-- The text or, character by character, the octets of a string that is not
a formatted one. -/
def StringParts.value (s : StringParts) : Except String (List Char) :=
  if s.raw then .ok s.body
  else if s.octets then unescapeOctets s.body.length 0 s.body
  else unescapeText s.body.length 0 s.body

-- ==================================================== formatted strings

/-- A piece of a formatted string: text, an expression with the number of
breaks in front of it and the pieces of its format, or a fault. -/
inductive Piece where
  | text (s : List Char)
  | value (breaks : Nat) (expression : List Char) (format : List Piece)
  | fault (message : String)

/-- What ends the expression of a piece: the text from there on. -/
abbrev PieceEnd := Except String (List Char × List Char)

/-- The end of a quoted part of an expression; `size` quotes open and close
it. -/
def quotedEnd (quote : Char) (size : Nat) (seen : List Char) :
    List Char → PieceEnd
  | [] => .error "f-string: unterminated string"
  | c :: rest =>
    if c == '\\' then
      .error "f-string expression part cannot include a backslash"
    else if c == quote && size == 1 then .ok (c :: seen, rest)
    else
      match rest with
      | a :: b :: after =>
        if c == quote && a == quote && b == quote then
          .ok (b :: a :: c :: seen, after)
        else quotedEnd quote size (c :: seen) rest
      | _ => quotedEnd quote size (c :: seen) rest

/-- The wording for a bracket that has no partner. -/
def unmatched (c : Char) : String := s!"f-string: unmatched '{c}'"

/-- Cuts the expression off the start of a text: the expression and the text
from what ends it on. `seen` is what has been read, last character first,
`open_` the open brackets, and the first argument bounds the length. -/
def expressionEnd : Nat → List Char → List Char → List Char → PieceEnd
  | 0, seen, _, s => .ok (seen.reverse, s)
  | _, seen, opened, [] =>
    match opened with
    | c :: _ => .error (unmatched c)
    | [] => .ok (seen.reverse, [])
  | fuel + 1, seen, opened, c :: rest =>
    if c == '\\' then
      .error "f-string expression part cannot include a backslash"
    else if c == '"' || c == '\'' then
      let opening := if [c, c].isPrefixOf rest then [c, c, c] else [c]
      match quotedEnd c opening.length (opening ++ seen)
          (rest.drop (opening.length - 1)) with
      | .ok (seen, left) => expressionEnd fuel seen opened left
      | .error e => .error e
    else if c == '(' || c == '[' || c == '\x7b' then
      if 200 ≤ opened.length then
        .error "f-string: too many nested parenthesis"
      else expressionEnd fuel (c :: seen) (c :: opened) rest
    else if c == '#' then
      .error "f-string expression part cannot include '#'"
    else
      let doubled := rest.head? == some '='
        && (c == '!' || c == '=' || c == '<' || c == '>')
      if opened.isEmpty && doubled then
        expressionEnd fuel ('=' :: c :: seen) opened (rest.drop 1)
      else if opened.isEmpty
          && (c == '!' || c == ':' || c == '\x7d' || c == '=') then
        .ok (seen.reverse, c :: rest)
      else
        match opener? c with
        | none => expressionEnd fuel (c :: seen) opened rest
        | some partner =>
          match opened with
          | [] => .error (unmatched c)
          | o :: outer =>
            if o == partner then
              expressionEnd fuel (c :: seen) outer rest
            else
              .error (s!"f-string: closing parenthesis '{c}' does not "
                ++ s!"match opening parenthesis '{o}'")

/-- The text in front of the next expression of a formatted string and the
text from there on. A doubled brace stands for one, and ends a piece; the
flag says that this happened. Inside a format braces are not doubled. The character
after the escape for a name is passed over, and with a brace the name is. -/
def literalEnd (raw inFormat : Bool) : Nat → List Char → List Char →
    Except String (List Char × List Char × Bool)
  | 0, seen, s => .ok (seen.reverse, s, false)
  | _, seen, [] => .ok (seen.reverse, [], false)
  | fuel + 1, seen, '\\' :: c :: rest =>
    if raw || c == '\x7b' || c == '\x7d' then
      literalEnd raw inFormat fuel ('\\' :: seen) (c :: rest)
    else if c == 'N' then
      let name :=
        if rest.head? == some '\x7b' then rest.takeWhile (· != '\x7d')
        else []
      let taken := rest.take (name.length + 1)
      literalEnd raw inFormat fuel
        (taken.reverse ++ 'N' :: '\\' :: seen) (rest.drop taken.length)
    else literalEnd raw inFormat fuel (c :: '\\' :: seen) rest
  | fuel + 1, seen, c :: rest =>
    if c == '\x7b' || c == '\x7d' then
      if inFormat then .ok (seen.reverse, c :: rest, false)
      else if rest.head? == some c then
        .ok ((c :: seen).reverse, rest.drop 1, true)
      else if c == '\x7d' then
        .error "f-string: single '\x7d' is not allowed"
      else .ok (seen.reverse, c :: rest, false)
    else literalEnd raw inFormat fuel (c :: seen) rest

/-- An expression of blanks only is refused; `c` is what ends it. -/
def emptyExpression (c : Char) : String :=
  if c == '!' || c == ':' || c == '=' then
    s!"f-string: expression required before '{c}'"
  else "f-string: empty expression not allowed"

/-- The wording for an expression that is not closed. -/
def unclosedPiece : String := "f-string: expecting '\x7d'"

/-- The conversion behind an expression: what follows it, or a fault. -/
def afterConversion (s : List Char) : Except String (List Char) :=
  match s with
  | ['!'] => .error unclosedPiece
  | '!' :: c :: rest =>
    if c == 's' || c == 'r' || c == 'a' then .ok rest
    else
      .error ("f-string: invalid conversion character: "
        ++ "expected 's', 'r', or 'a'")
  | s => .ok s

/-- The pieces of a formatted string, or of a format at `level`, and what
follows them. `breaks` counts the breaks in front, and the first argument
bounds the length. -/
def pieces (raw : Bool) : Nat → Nat → Nat → List Char →
    List Piece × List Char
  | 0, _, _, s => ([], s)
  | fuel + 1, level, breaks, s =>
    match literalEnd raw (0 < level) (s.length + 1) [] s with
    | .error e => ([.fault e], [])
    | .ok (found, rest, again) =>
      let here := if found.isEmpty then [] else [Piece.text found]
      let breaks := breaks + (s.take (s.length - rest.length)).count '\n'
      let followedBy : List Piece × List Char → List Piece × List Char
        | (more, left) => (here ++ more, left)
      let refuse (e : String) : List Piece × List Char :=
        (here ++ [.fault e], [])
      if again then followedBy (pieces raw fuel level breaks rest)
      else
        match rest with
        | '\x7b' :: inside =>
          if 2 ≤ level then
            refuse "f-string: expressions nested too deeply"
          else
            match expressionEnd (inside.length + 1) [] [] inside with
            | .error e => refuse e
            | .ok (_, []) => refuse unclosedPiece
            | .ok (expression, c :: behind) =>
              let blank (c : Char) : Bool :=
                c == ' ' || c == '\t' || c == '\n' || c == '\x0c'
              if expression.all blank then refuse (emptyExpression c)
              else
                let value (format : List Piece) : List Piece :=
                  here ++ [.value breaks expression format]
                let tail :=
                  if c == '=' then
                    behind.dropWhile fun c => blank c || c == '\x0b'
                      || c == '\r'
                  else c :: behind
                match afterConversion tail with
                | .error e => (value [] ++ [.fault e], [])
                | .ok left =>
                  let seen := (inside.take
                    (inside.length - left.length)).count '\n'
                  let (format, left) :=
                    match left with
                    | ':' :: spec =>
                      if spec.isEmpty then ([Piece.fault unclosedPiece], [])
                      else pieces raw fuel (level + 1) (breaks + seen) spec
                    | left => ([], left)
                  match left with
                  | '\x7d' :: left =>
                    let passed := (inside.take
                      (inside.length - left.length)).count '\n'
                    let (more, left) :=
                      pieces raw fuel level (breaks + passed) left
                    (value format ++ more, left)
                  | _ => (value format ++ [.fault unclosedPiece], [])
        | _ => (here, rest)

end Toolsmith.Script
