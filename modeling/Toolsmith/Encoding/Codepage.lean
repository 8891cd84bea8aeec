/-
Code pages: character sets in which every octet is a character of its own.
-/
import Toolsmith.Text.CodeTable

namespace Toolsmith

/-- A code page: its name, the other names it goes by, and the characters of
its last octets in rows. The octets before those are ASCII. -/
structure Codepage where
  name : String
  aliases : List String
  rows : List String
  deriving DecidableEq, Repr

namespace Codepage

/-- The characters of the last octets. -/
def cells (p : Codepage) : List Char := p.rows.flatMap String.toList

/-- The characters of octets, with `none` for an octet that has none. -/
def read (p : Codepage) (octets : List UInt8) : List (Option Char) :=
  let cells := p.cells
  let first := 256 - cells.length
  octets.map fun o =>
    if o.toNat < first then some (Char.ofNat o.toNat)
    else CodeTable.cell? cells (o.toNat - first)

end Codepage

end Toolsmith
