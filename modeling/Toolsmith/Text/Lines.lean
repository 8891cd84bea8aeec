/-
Blank margins, lines and words of a text.
-/
import Toolsmith.Text.Class

namespace Toolsmith.Text

-- ============================================================= margins

/-- The text without the blanks at its start. -/
def stripLeft (s : List Char) : List Char := s.dropWhile isBlank

/-- The text without the blanks at its end. -/
def stripRight (s : List Char) : List Char :=
  (s.reverse.dropWhile isBlank).reverse

/-- The text without the blanks at both ends. -/
def strip (s : List Char) : List Char := stripRight (stripLeft s)

/-- The text without the characters of a class at both ends. -/
def stripOf (kind : Char → Bool) (s : List Char) : List Char :=
  ((s.dropWhile kind).reverse.dropWhile kind).reverse

/-- The text without the characters `c` at its end. -/
def dropTrailing (c : Char) (s : List Char) : List Char :=
  (s.reverse.dropWhile (· == c)).reverse

-- =============================================================== lines

/-- Puts `c` in front of the first line; there is one if there was none. -/
def consLine (c : Char) : List (List Char) → List (List Char)
  | [] => [[c]]
  | line :: rest => (c :: line) :: rest

/-- The lines of a text. A carriage return with a line feed is one break,
and a break at the very end opens no further line. -/
def lines : List Char → List (List Char)
  | [] => []
  | '\r' :: '\n' :: rest => [] :: lines rest
  | c :: rest => if isLineBreak c then [] :: lines rest else consLine c (lines rest)

/-- The text with a line feed for every carriage return, and for one with a
line feed behind it. -/
def unifyBreaks : List Char → List Char
  | [] => []
  | '\r' :: '\n' :: rest => '\n' :: unifyBreaks rest
  | c :: rest => (if c == '\r' then '\n' else c) :: unifyBreaks rest

-- ======================================================= words and parts

/-- The words of a text: its longest runs without a blank, where `word`
holds the run read so far, last character first. -/
def wordsFrom (word : List Char) : List Char → List (List Char)
  | [] => if word.isEmpty then [] else [word.reverse]
  | c :: rest =>
    if isBlank c then
      if word.isEmpty then wordsFrom [] rest
      else word.reverse :: wordsFrom [] rest
    else wordsFrom (c :: word) rest

/-- The words of a text: its longest runs without a blank. -/
def words (s : List Char) : List (List Char) := wordsFrom [] s

/-- The parts of a text between the occurrences of `mark`; there is always
at least one. -/
def splitAt (mark : Char) : List Char → List (List Char)
  | [] => [[]]
  | c :: rest =>
    if c == mark then [] :: splitAt mark rest
    else consLine c (splitAt mark rest)

/-- The parts of a list of texts with `between` in the gaps. -/
def join (between : List Char) : List (List Char) → List Char
  | [] => []
  | [part] => part
  | part :: rest => part ++ between ++ join between rest

end Toolsmith.Text
