/-
Reading numbers from text. Blanks around a number do not count, single
underscores may stand between digits, and digits of every script are read.
-/
import Toolsmith.Number.Binary64
import Toolsmith.Text.Case
import Toolsmith.Text.Lines

namespace Toolsmith.Number

open Text

/-- An integer text may have this many decimal digits. -/
def digitLimit : Nat := 4300

/-- The wording for an integer text with too many digits. -/
def tooManyDigits (count : Nat) : String :=
  s!"Exceeds the limit ({digitLimit} digits) for integer string "
    ++ s!"conversion: value has {count} digits; use "
    ++ "sys.set_int_max_str_digits() to increase the limit"

/-- The wording for an integer that has too many digits to be written. -/
def tooWide : String :=
  s!"Exceeds the limit ({digitLimit} digits) for integer string "
    ++ "conversion; use sys.set_int_max_str_digits() to increase the limit"

/-- The integer has few enough decimal digits to be written. -/
def isWritable (n : Int) : Bool := n.natAbs < Nat.pow 10 digitLimit

/-- Blanks that may stand around a number: all of them but the separators of
records. -/
def isPadding (c : Char) : Bool :=
  isBlank c && !(28 ≤ c.toNat && c.toNat ≤ 31)

/-- Why a text is no integer. -/
inductive IntFault where
  | notANumber
  /-- More decimal digits than `digitLimit`. -/
  | tooLong
  deriving DecidableEq, Repr

/-- A sign in front of a text, if there is one; the flag is set by a minus. -/
def signed : List Char → Bool × List Char
  | '-' :: rest => (true, rest)
  | '+' :: rest => (false, rest)
  | s => (false, s)

/-- The natural with the given digits, the most significant first. -/
def ofDigits (base : Nat) (digits : List Nat) : Nat :=
  digits.foldl (fun n d => n * base + d) 0

/-- The value of a digit below `base`; letters continue after nine. -/
def digitBelow? (base : Nat) (c : Char) : Option Nat :=
  let value :=
    match digitValue? c with
    | some d => some d
    | none => hexValue? c
  value.filter (· < base)

/-- The digits at the start of a text, with single underscores between them
left out, and the rest of the text. -/
def takeDigits (base : Nat) : List Char → List Nat × List Char
  | [] => ([], [])
  | '_' :: c :: rest =>
    match digitBelow? base c with
    | some d =>
      let (more, left) := takeDigits base rest
      (d :: more, left)
    | none => ([], '_' :: c :: rest)
  | c :: rest =>
    match digitBelow? base c with
    | some d =>
      let (more, left) := takeDigits base rest
      (d :: more, left)
    | none => ([], c :: rest)

/-- Takes digits from a text that has to begin with one. -/
def digitRun (base : Nat) (s : List Char) : List Nat × List Char :=
  if s.head? == some '_' then ([], s) else takeDigits base s

/-- An integer in the given base: blanks, a sign, digits, blanks. -/
def int? (base : Nat) (s : List Char) : Except IntFault Int :=
  let (negative, body) := signed (stripOf isPadding s)
  match digitRun base body with
  | ([], _) => .error .notANumber
  | (_, _ :: _) => .error .notANumber
  | (digits, []) =>
    if base == 10 && digitLimit < digits.length then .error .tooLong
    else
      let n : Int := ofDigits base digits
      .ok (if negative then -n else n)

/-- The words that stand for what is not a finite number. -/
def special? (word : List Char) (negative : Bool) : Option Binary64 :=
  let w := lower word
  if w == "nan".toList then some .nan
  else if w == "inf".toList || w == "infinity".toList then
    some (.infinity negative)
  else none

/-- The exponent part of a decimal: a mark, a sign and digits, up to the
end of the text. An absent part is zero. -/
def exponent? : List Char → Option Int
  | [] => some 0
  | c :: rest =>
    if c == 'e' || c == 'E' then
      let (negative, body) := signed rest
      match digitRun 10 body with
      | (d :: ds, []) =>
        let n : Int := ofDigits 10 (d :: ds)
        some (if negative then -n else n)
      | _ => none
    else none

/-- A double: blanks, a sign, digits with or without a point, an exponent,
blanks; or one of the special words. -/
def float? (s : List Char) : Option Binary64 :=
  let (negative, body) := signed (stripOf isPadding s)
  match special? body negative with
  | some x => some x
  | none =>
    let (whole, rest) := digitRun 10 body
    let (fraction, rest) :=
      match rest with
      | '.' :: r => digitRun 10 r
      | r => ([], r)
    if whole.isEmpty && fraction.isEmpty then none
    else
      (exponent? rest).map fun e =>
        Binary64.ofDecimal negative (ofDigits 10 (whole ++ fraction))
          (e - fraction.length)

end Toolsmith.Number
