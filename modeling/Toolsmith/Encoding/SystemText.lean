/-
Texts that are handed to the system: names of files, and the names and values
of variables. The system takes them as octets other than zero. Surrogates
from U+DC80 on stand for octets that are no part of a character.
-/
import Toolsmith.Encoding.Utf8
import Toolsmith.Failure

namespace Toolsmith.SystemText

open Text (codePoint Lone)

/-- The octet that a surrogate stands for, if it stands for one. -/
def octet? (c : Char) : Option UInt8 :=
  let n := codePoint c
  if 0xdc80 ≤ n && n ≤ 0xdcff then some (UInt8.ofNat (n - 0xdc00)) else none

/-- The first run of lone surrogates that do not stand for octets. -/
def lone? (s : List Char) : Option Lone :=
  Lone.find? (s.map fun c => if (octet? c).isSome then ' ' else c)

/-- The octets of a text without surrogates other than those for octets. -/
def octets (s : List Char) : List UInt8 :=
  s.flatMap fun c =>
    match octet? c with
    | some o => [o]
    | none => Utf8.encodeNat (codePoint c)

/-- The text that a reader sees: octets that are no part of a character are
replaced. -/
def shown (s : String) : String :=
  String.ofList ((Utf8.read (octets s.toList)).map (·.getD '\ufffd'))

/-- Fails on a text that the system does not take. -/
def require (s : String) : Except Failure Unit :=
  match lone? s.toList with
  | some run => .error (.misuse (.lone run))
  | none =>
    if s.toList.contains '\x00' then .error (.misuse .value) else .ok ()

/-- Fails on a variable that the system does not hold. Its name is not empty
and has no equals sign. -/
def requireVariable (name value : String) : Except Failure Unit :=
  let hasZero (s : String) : Bool := s.toList.contains '\x00'
  match (lone? name.toList).or (lone? value.toList) with
  | some run => .error (.misuse (.lone run))
  | none =>
    if hasZero name || hasZero value || name.toList.contains '=' then
      .error (.misuse .value)
    else if name == "" then .error (.file (.other "invalid argument"))
    else .ok ()

end Toolsmith.SystemText
