/-
Syntax trees. A tree keeps every part of a phrase in the order of the text;
`children` gives the parts that count as nodes, in the order in which the
fields of a node list them.
-/
import Toolsmith.Script.Token

namespace Toolsmith.Script

/-- The kinds of nodes. -/
inductive Kind where
  | module
  -- statements
  | functionDef
  | classDef
  | statement
  -- expressions
  | boolOp
  | namedExpr
  | binOp
  | unaryOp
  | lambda
  | ifExp
  | dict
  | set
  | listComp
  | setComp
  | dictComp
  | generator
  | awaitExpr
  | yieldExpr
  | compare
  | call
  | member
  | subscript
  | starred
  | name
  | list
  | tuple
  | slice
  | number
  | strings
  | joined
  | word
  -- parts of statements and expressions
  | part
  | decorators
  | returns
  | arguments
  | parameter
  | default
  | keyword
  | unpacking
  | entry
  | callTail
  | memberTail
  | subscriptTail
  | pattern
  deriving DecidableEq, Repr

/-- A syntax tree: a token, a node, or several parts that are no node of
their own. -/
inductive Tree where
  | token (t : Token)
  | node (kind : Kind) (parts : List Tree)
  | group (parts : List Tree)
  deriving Repr, Inhabited

namespace Tree

/-- The empty group stands for an absent part. -/
def absent : Tree := .group []

mutual

/-- The first token of a tree. -/
def firstToken? : Tree → Option Token
  | .token t => some t
  | .node _ parts => firstTokenOf parts
  | .group parts => firstTokenOf parts

/-- The first token of a list of trees. -/
def firstTokenOf : List Tree → Option Token
  | [] => none
  | t :: rest =>
    match firstToken? t with
    | some found => some found
    | none => firstTokenOf rest

end

/-- The line that a tree begins on. -/
def line (t : Tree) : Nat := (t.firstToken?.map (·.line)).getD 0

/-- The text of a token. -/
def text : Tree → String
  | .token t => t.text
  | _ => ""

mutual

/-- A tree with its groups taken apart. -/
def flat : Tree → List Tree
  | .group parts => flatAll parts
  | t => [t]

/-- Trees with their groups taken apart. -/
def flatAll : List Tree → List Tree
  | [] => []
  | t :: rest => flat t ++ flatAll rest

end

/-- The tree is a node of the given kind. -/
def isKind (k : Kind) : Tree → Bool
  | .node k' _ => k' == k
  | _ => false

/-- The tree is a node. -/
def isNode : Tree → Bool
  | .node _ _ => true
  | _ => false

/-- The parts of a node or a group. -/
def parts : Tree → List Tree
  | .node _ ps => ps
  | .group ps => ps
  | .token _ => []

/-- The nodes among the parts of a tree, with groups taken apart. -/
def nodes (t : Tree) : List Tree := (flatAll t.parts).filter isNode

-- ============================================================= folding

/-- Operands joined from the left, each pair by a node; `tails` holds the
operators with their right operands. -/
def chain (k : Kind) (first : Tree) (tails : List Tree) : Tree :=
  tails.foldl (fun left tail => .node k (left :: tail.parts)) first

/-- A tail turns what stands in front of it into a node. -/
def attach (base tail : Tree) : Tree :=
  match tail with
  | .node .memberTail ps => .node .member (base :: ps)
  | .node .subscriptTail ps => .node .subscript (base :: ps)
  | _ => .node .call [base, tail]

/-- What tails, one after the other, make of what stands in front of
them. -/
def trail (base : Tree) (tails : List Tree) : Tree := tails.foldl attach base

-- ============================================================ children

/-- An argument has a name, or is a mapping from names. -/
def isNamed (t : Tree) : Bool := t.isKind .keyword || t.isKind .unpacking

/-- The arguments of a call: those by place, then those by name. -/
def argumentsOf (tail : Tree) : List Tree :=
  if tail.isKind .callTail then
    let (named, placed) := tail.nodes.partition isNamed
    placed ++ named
  else [tail]

/-- Parameters sorted by the fields that list them: those by place, the one
after a star, those by name only, their defaults, the one after two stars,
and the defaults of those by place. -/
structure Signature where
  placed : List Tree := []
  star : List Tree := []
  named : List Tree := []
  namedDefaults : List Tree := []
  double : List Tree := []
  defaults : List Tree := []

/-- Where a parameter stands: in front of the star, right behind it, behind
it, or behind two stars. -/
inductive Section where
  | front
  | star
  | names
  | double

/-- Sorts parameters. A comma right behind a star means that no parameter
belongs to it. -/
def sortParameters : Section → List Tree → Signature
  | _, [] => {}
  | at_, t :: rest =>
    match t with
    | .token mark =>
      let next : Section :=
        match mark.text, at_ with
        | "**", _ => .double
        | "*", _ => .star
        | ",", .star => .names
        | _, here => here
      sortParameters next rest
    | .node .default _ =>
      let sorted := sortParameters at_ rest
      match at_ with
      | .front => { sorted with defaults := t.nodes ++ sorted.defaults }
      | _ =>
        { sorted with namedDefaults := t.nodes ++ sorted.namedDefaults }
    | t =>
      match at_ with
      | .front =>
        let sorted := sortParameters .front rest
        { sorted with placed := t :: sorted.placed }
      | .star =>
        let sorted := sortParameters .names rest
        { sorted with star := t :: sorted.star }
      | .names =>
        let sorted := sortParameters .names rest
        { sorted with named := t :: sorted.named }
      | .double =>
        let sorted := sortParameters .double rest
        { sorted with double := t :: sorted.double }

/-- All parameters and defaults in the order of the fields. -/
def Signature.all (s : Signature) : List Tree :=
  s.placed ++ s.star ++ s.named ++ s.namedDefaults ++ s.double ++ s.defaults

/-- The nodes of an entry of a mapping in front of its colon. -/
def entryKey (t : Tree) : List Tree :=
  (flatAll t.parts).take 1 |>.filter isNode

/-- The node of an entry of a mapping behind its colon or stars. -/
def entryValue (t : Tree) : List Tree :=
  (flatAll t.parts).drop 1 |>.filter isNode

/-- The nodes among the parts of a node, in the order of its fields. -/
def children (t : Tree) : List Tree :=
  let nodes := t.nodes
  match t with
  | .node .call [base, tail] => base :: argumentsOf tail
  | .node .dict _ =>
    nodes.flatMap entryKey ++ nodes.flatMap entryValue
  | .node .dictComp _ =>
    nodes.flatMap fun n => if n.isKind .entry then n.nodes else [n]
  | .node .ifExp _ =>
    match nodes with
    | [body, test, other] => [test, body, other]
    | _ => nodes
  | .node .functionDef _ =>
    let (decorators, others) := nodes.partition (·.isKind .decorators)
    let (returns, others) := others.partition (·.isKind .returns)
    others ++ decorators.flatMap (·.nodes) ++ returns.flatMap (·.nodes)
  | .node .classDef _ =>
    let (decorators, others) := nodes.partition (·.isKind .decorators)
    (others.flatMap fun n => if n.isKind .callTail then argumentsOf n else [n])
      ++ decorators.flatMap (·.nodes)
  | .node .arguments ps => (sortParameters .front (flatAll ps)).all
  | .node _ _ => nodes
  | _ => []

end Tree

end Toolsmith.Script
