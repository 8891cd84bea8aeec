/-
What a syntax tree says about calls: the nodes of a tree from the outside to
the inside, and the constants that calls are given by name.
-/
import Toolsmith.Script.Reader
import Toolsmith.Text.PlainForm
import Toolsmith.Value.Basic

namespace Toolsmith.Script

namespace Tree

/-- The nodes of some trees, level by level; the first argument bounds the
number of levels. -/
def levels : Nat → List Tree → List Tree
  | 0, _ => []
  | fuel + 1, here =>
    if here.isEmpty then []
    else here ++ levels fuel (here.flatMap children)

/-- All nodes of a tree: those nearer to the root go first, and those at one
distance from it are in the order of the text. -/
def walk (t : Tree) : List Tree := levels t.size [t]

-- =========================================================== constants

/-- A constant that an expression stands for. -/
inductive Constant where
  | value (v : Value)
  /-- One that is no plain value. -/
  | other

/-- The value of string tokens side by side. -/
def stringValue (tokens : List Tree) : Value :=
  let parts := tokens.map fun t => StringParts.ofToken t.text.toList
  let body := parts.flatMap fun p => (p.value.toOption).getD []
  if parts.any (·.octets) then
    .bytes (body.map fun c => UInt8.ofNat c.toNat)
  else .text (String.ofList body)

/-- The constant that an expression is, if it is one. -/
def constant? : Tree → Option Constant
  | .node .number [digits] =>
    match numberValue digits.text.toList with
    | .ok (.whole n) => some (.value (.int n))
    | .ok (.double x) => some (.value (.float x))
    | .ok .imaginary => some .other
    | .error _ => none
  | .node .strings tokens => some (.value (stringValue tokens))
  | .node .word [name] =>
    match name.text with
    | "True" => some (.value (.bool true))
    | "False" => some (.value (.bool false))
    | "None" => some (.value .null)
    | _ => some .other
  | _ => none

-- =============================================================== calls

/-- The tree selects a member of the given name. -/
def isMemberNamed (name : String) : Tree → Bool
  | .node .member [_, _, selected] => Text.plainName selected.text == name
  | _ => false

/-- The values of the arguments of the given name in a call of a member of
the given name. -/
def argumentsNamed (member name : String) : Tree → List Tree
  | .node .call [base, tail] =>
    if base.isMemberNamed member then
      (argumentsOf tail).flatMap fun argument =>
        match argument with
        | .node .keyword [given, _, value] =>
          if Text.plainName given.text == name then [value] else []
        | _ => []
    else []
  | _ => []

/-- The constants under an argument name in all calls of a member. -/
def constantsNamed (member name : String) (t : Tree) : List Constant :=
  (t.walk.flatMap (argumentsNamed member name)).filterMap constant?

end Tree

end Toolsmith.Script
