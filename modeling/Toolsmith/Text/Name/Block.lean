/-
Names of neighbouring characters, kept together where they begin alike.
-/
import Toolsmith.Text.Search

namespace Toolsmith.Text

/-- Neighbouring code points whose names begin alike: the first of them, the
words that all their names begin with, and how each name goes on, in lines
divided by slashes. -/
structure NameBlock where
  first : Nat
  opening : String
  endings : List String
  deriving DecidableEq, Repr

namespace NameBlock

/-- What follows an opening in a name: all of it after an empty opening, and
nothing if the opening is the name. -/
def ending? (opening name : List Char) : Option (List Char) :=
  if opening.isEmpty then some name
  else if opening == name then some []
  else after? (opening ++ [' ']) name

/-- The place of an ending among those of a line, counted from the given
place, given what is read of the current one. Without it, the place behind
the line. -/
def place (ending : List Char) :
    Nat → List Char → List Char → Option Nat × Nat
  | n, current, [] =>
    (if current.reverse == ending then some n else none, n)
  | n, current, c :: rest =>
    if c == '/' then
      if current.reverse == ending then (some n, n)
      else place ending (n + 1) [] rest
    else place ending n (c :: current) rest

/-- The code point of a name, if the block has it. -/
def codePoint? (b : NameBlock) (name : List Char) : Option Nat :=
  (ending? b.opening.toList name).bind fun ending =>
    (place ending 0 [] (b.endings.flatMap String.toList)).1.map (b.first + ·)

end NameBlock

end Toolsmith.Text
