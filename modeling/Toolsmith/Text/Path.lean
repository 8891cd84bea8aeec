/-
Paths of files as texts, with a slash between their parts.
-/
import Toolsmith.Text.Lines

namespace Toolsmith.Text.Path

/-- The slashes that begin a path count as one, except that exactly two of
them stay two. -/
def root : List Char → List Char
  | '/' :: '/' :: '/' :: _ => ['/']
  | '/' :: '/' :: _ => ['/', '/']
  | '/' :: _ => ['/']
  | _ => []

/-- The parts of a path; empty parts and single dots do not count. -/
def parts (path : List Char) : List (List Char) :=
  (splitAt '/' path).filter fun p => !p.isEmpty && p != ['.']

/-- The shortest way to write a path. The path without parts is one dot. -/
def normal (path : String) : String :=
  let s := path.toList
  let written := root s ++ join ['/'] (parts s)
  if written.isEmpty then "." else String.ofList written

/-- A file in a directory, whose path is written the shortest way. -/
def within (directory name : String) : String :=
  if directory == "." then name
  else if "/".toList.isSuffixOf directory.toList then directory ++ name
  else directory ++ "/" ++ name

end Toolsmith.Text.Path
