/-
Characters by name. Names of the standard's list are known in either case;
the names that are made by rule are not.
-/
import Toolsmith.Text.Name.Alphabets
import Toolsmith.Text.Name.Cuneiform
import Toolsmith.Text.Name.EastAsia
import Toolsmith.Text.Name.Historic
import Toolsmith.Text.Name.Mathematical
import Toolsmith.Text.Name.Pictures
import Toolsmith.Text.Name.Scripts
import Toolsmith.Text.Name.Second
import Toolsmith.Text.Name.Supplement
import Toolsmith.Text.Name.Symbols
import Toolsmith.Text.Search

namespace Toolsmith.Text

-- ================================================ names made by rule

/-- The initials of the syllables of Hangul, in order. -/
def hangulInitials : List String :=
  ["G", "GG", "N", "D", "DD", "R", "M", "B", "BB", "S", "SS", "", "J", "JJ",
   "C", "K", "T", "P", "H"]

/-- The vowels of the syllables of Hangul, in order. -/
def hangulVowels : List String :=
  ["A", "AE", "YA", "YAE", "EO", "E", "YEO", "YE", "O", "WA", "WAE", "OE",
   "YO", "U", "WEO", "WE", "WI", "YU", "EU", "YI", "I"]

/-- The finals of the syllables of Hangul, in order. -/
def hangulFinals : List String :=
  ["", "G", "GG", "GS", "N", "NJ", "NH", "D", "L", "LG", "LM", "LB", "LS",
   "LT", "LP", "LH", "M", "B", "BS", "S", "SS", "NG", "J", "C", "K", "T",
   "P", "H"]

/-- The longest of some parts that a text begins with: its place among them
and the rest of the text. -/
def longestPart? (parts : List String) (s : List Char) :
    Option (Nat × List Char) :=
  let fitting := parts.zipIdx.filter fun (p, _) => p.toList.isPrefixOf s
  (fitting.foldl (fun (best : Option (String × Nat)) next =>
      match best with
      | some b => if b.1.length < next.1.length then some next else some b
      | none => some next) none).map
    fun (p, n) => (n, s.drop p.length)

/-- The syllable of Hangul that is spelled out. -/
def hangulSyllable? (s : List Char) : Option Nat := do
  let (first, rest) ← longestPart? hangulInitials s
  let (middle, rest) ← longestPart? hangulVowels rest
  let (last, rest) ← longestPart? hangulFinals rest
  if rest.isEmpty then return 0xac00 + (first * 21 + middle) * 28 + last
  else none

/-- The ranges of unified ideographs. -/
def unifiedIdeographs : List (Nat × Nat) :=
  [(0x3400, 0x4dbf), (0x4e00, 0x9fff), (0x20000, 0x2a6df),
   (0x2a700, 0x2b738), (0x2b740, 0x2b81d), (0x2b820, 0x2cea1),
   (0x2ceb0, 0x2ebe0), (0x30000, 0x3134a)]

/-- The ranges of compatible ideographs. -/
def compatibleIdeographs : List (Nat × Nat) :=
  [(0xf900, 0xfa6d), (0xfa70, 0xfad9), (0x2f800, 0x2fa1d)]

/-- The code point of four or five hexadecimal digits in capitals. -/
def hexCode? (s : List Char) : Option Nat :=
  let digits := "0123456789ABCDEF".toList
  if s.length == 4 || s.length == 5 then
    s.foldlM (fun n c => (digits.idxOf? c).map (n * 16 + ·)) 0
  else none

/-- The number of a selector in an abbreviation, written without needless
zeros. -/
def selector? (s : List Char) : Option Nat := do
  let digits ← after? "VS".toList s
  let n ← (String.ofList digits).toNat?
  if s!"VS{n}" != String.ofList s then none
  else if 1 ≤ n && n ≤ 16 then return 0xfdff + n
  else if 17 ≤ n && n ≤ 256 then return 0xe00ef + n
  else none

-- ============================================================= lookup

/-- The blocks of all names that are listed. -/
def nameBlocks : List NameBlock :=
  NameBlock.alphabets ++ NameBlock.scripts ++ NameBlock.symbols
    ++ NameBlock.eastAsia ++ NameBlock.historic ++ NameBlock.cuneiform
    ++ NameBlock.supplement ++ NameBlock.mathematical
    ++ NameBlock.pictures

/-- A compatible ideograph of a name in capitals. Its digits are as many as
the code point needs. -/
def compatibleIdeograph? (name : List Char) : Option Nat := do
  let digits ← after? "CJK COMPATIBILITY IDEOGRAPH-".toList name
  let n ← hexCode? digits
  if compatibleIdeographs.any (fun (first, last) => first ≤ n && n ≤ last)
      && (digits.length == 5) == (0x10000 ≤ n) then return n
  else none

/-- The code point of a name of the list, which is in capitals. -/
def listedName? (name : List Char) : Option Nat :=
  (((nameBlocks.findSome? (·.codePoint? name)).or
    ((secondNames.find? (·.2.toList == name)).map (·.1))).or
    (compatibleIdeograph? name)).or (selector? name)

/-- The character of a name. -/
def named? (name : List Char) : Option Char :=
  let code? : Option Nat :=
    match after? "HANGUL SYLLABLE ".toList name with
    | some rest => hangulSyllable? rest
    | none =>
      match after? "CJK UNIFIED IDEOGRAPH-".toList name with
      | some rest =>
        (hexCode? rest).filter fun n =>
          unifiedIdeographs.any fun (first, last) => first ≤ n && n ≤ last
      | none => listedName? (name.map Char.toUpper)
  code?.map Char.ofNat

end Toolsmith.Text
