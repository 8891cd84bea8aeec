/-
Texts inside comments of a generated source: each line of a text takes the
mark of the comment, and the end of a block comment is taken apart.
-/
import Toolsmith.Text.Lines
import Toolsmith.Text.Search

namespace Toolsmith.Generate

open Text

/-- The text without the mark that ends a block comment: a space comes
between its star and its slash. -/
def defused (s : List Char) : List Char :=
  replace "*/".toList "* /".toList s

/-- The lines of a text, one at least, each behind `mark` and without
blanks at its end. -/
def commentLines (mark s : List Char) : List (List Char) :=
  let found := lines (defused s)
  let all := if found.isEmpty then [[]] else found
  all.map fun line => stripRight (mark ++ line)

/-- A text as the lines of a comment. -/
def comment (mark s : List Char) : List Char :=
  join ['\n'] (commentLines mark s)

end Toolsmith.Generate
