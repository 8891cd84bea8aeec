/-
Character classes. Each class is a predicate on one character; the classes
that reach beyond ASCII look their ranges up in the table modules, behind a
test that settles ASCII at once.
-/
import Toolsmith.Text.IdentifierTable
import Toolsmith.Text.Unprintable
import Toolsmith.Text.WordTable

namespace Toolsmith.Text

/-- Some range of the list holds the code point. -/
def inRanges (ranges : List (Nat × Nat)) (n : Nat) : Bool :=
  ranges.any fun (first, last) => first ≤ n && n ≤ last

-- ==================================================== blanks and breaks

/-- Blank characters: the spaces of every script, the line and paragraph
separators, and the control characters that move the print position or
separate records. -/
def isBlank (c : Char) : Bool :=
  let n := c.toNat
  (9 ≤ n && n ≤ 13) || (28 ≤ n && n ≤ 32) || n == 0x85 || n == 0xa0
    || n == 0x1680 || (0x2000 ≤ n && n ≤ 0x200a) || n == 0x2028
    || n == 0x2029 || n == 0x202f || n == 0x205f || n == 0x3000

/-- Characters that end a line of text. -/
def isLineBreak (c : Char) : Bool :=
  let n := c.toNat
  (10 ≤ n && n ≤ 13) || (28 ≤ n && n ≤ 30) || n == 0x85 || n == 0x2028
    || n == 0x2029

-- ============================================================== digits

/-- An ASCII letter. -/
def isAsciiLetter (c : Char) : Bool :=
  ('a' ≤ c && c ≤ 'z') || ('A' ≤ c && c ≤ 'Z')

/-- An ASCII digit. -/
def isAsciiDigit (c : Char) : Bool := '0' ≤ c && c ≤ '9'

/-- An ASCII letter, an ASCII digit or the underscore. -/
def isNameChar (c : Char) : Bool :=
  isAsciiLetter c || isAsciiDigit c || c == '_'

/-- The code points of the digit zero in every decimal digit family. -/
def zeroDigits : List Nat :=
  [0x0030, 0x0660, 0x06f0, 0x07c0, 0x0966, 0x09e6, 0x0a66, 0x0ae6, 0x0b66,
   0x0be6, 0x0c66, 0x0ce6, 0x0d66, 0x0de6, 0x0e50, 0x0ed0, 0x0f20, 0x1040,
   0x1090, 0x17e0, 0x1810, 0x1946, 0x19d0, 0x1a80, 0x1a90, 0x1b50, 0x1bb0,
   0x1c40, 0x1c50, 0xa620, 0xa8d0, 0xa900, 0xa9d0, 0xa9f0, 0xaa50, 0xabf0,
   0xff10, 0x104a0, 0x10d30, 0x11066, 0x110f0, 0x11136, 0x111d0, 0x112f0,
   0x11450, 0x114d0, 0x11650, 0x116c0, 0x11730, 0x118e0, 0x11950, 0x11c50,
   0x11d50, 0x11da0, 0x16a60, 0x16ac0, 0x16b50, 0x1d7ce, 0x1d7d8, 0x1d7e2,
   0x1d7ec, 0x1d7f6, 0x1e140, 0x1e2f0, 0x1e950, 0x1fbf0]

/-- The value of a decimal digit of any script. -/
def digitValue? (c : Char) : Option Nat :=
  let n := c.toNat
  (zeroDigits.find? fun first => first ≤ n && n < first + 10).map (n - ·)

/-- The value of a hexadecimal digit. -/
def hexValue? (c : Char) : Option Nat :=
  if isAsciiDigit c then some (c.toNat - 48)
  else if 'a' ≤ c && c ≤ 'f' then some (c.toNat - 87)
  else if 'A' ≤ c && c ≤ 'F' then some (c.toNat - 55)
  else none

/-- The lower-case hexadecimal digit of a value below sixteen. -/
def hexDigit (n : Nat) : Char :=
  if n < 10 then Char.ofNat (48 + n) else Char.ofNat (87 + n)

/-- `width` lower-case hexadecimal digits of `n`, the last ones. -/
def hexText : Nat → Nat → List Char
  | 0, _ => []
  | width + 1, n => hexText width (n / 16) ++ [hexDigit (n % 16)]

/-- The decimal digits of `n`. -/
def decimalText (n : Nat) : List Char := (Nat.repr n).toList

/-- The decimal digits of `n`, filled up with zeros to `width` digits. -/
def paddedText (width n : Nat) : List Char :=
  let digits := decimalText n
  List.replicate (width - digits.length) '0' ++ digits

/-- The decimal digits of an integer after its sign. -/
def integerText (n : Int) : List Char :=
  if n < 0 then '-' :: decimalText n.natAbs else decimalText n.natAbs

-- ===================================================== words and literals

/-- A letter, a number or the underscore. -/
def isWordChar (c : Char) : Bool :=
  isNameChar c || (0x80 ≤ c.toNat && inRanges wordRanges c.toNat)

/-- A character that may continue an identifier of a program text. -/
def isIdentifierChar (c : Char) : Bool :=
  isNameChar c || (0x80 ≤ c.toNat && inRanges identifierRanges c.toNat)

/-- A character that may begin an identifier of a program text. -/
def isIdentifierStart (c : Char) : Bool :=
  isAsciiLetter c || c == '_'
    || (0x80 ≤ c.toNat && inRanges identifierRanges c.toNat
        && !inRanges identifierTailRanges c.toNat)

/-- A character that stands for itself in a quoted literal. -/
def isPrintable (c : Char) : Bool :=
  let n := c.toNat
  (0x20 ≤ n && n < 0x7f) || (0x80 ≤ n && !inRanges unprintableRanges n)

end Toolsmith.Text
