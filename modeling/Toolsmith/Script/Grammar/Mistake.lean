/-
The rules for mistakes. They are tried on the second reading of a text that
follows no rule, to say what is wrong with it.
-/
import Toolsmith.Script.Grammar.Statement
import Toolsmith.Text.PlainForm

namespace Toolsmith.Script

-- ============================================================= wording

/-- What an expression is called. -/
def Tree.description : Tree → String
  | .node .member _ => "attribute"
  | .node .subscript _ => "subscript"
  | .node .starred _ => "starred"
  | .node .name _ => "name"
  | .node .list _ => "list"
  | .node .tuple _ => "tuple"
  | .node .lambda _ => "lambda"
  | .node .call _ => "function call"
  | .node .boolOp _ => "expression"
  | .node .binOp _ => "expression"
  | .node .unaryOp _ => "expression"
  | .node .generator _ => "generator expression"
  | .node .yieldExpr _ => "yield expression"
  | .node .awaitExpr _ => "await expression"
  | .node .listComp _ => "list comprehension"
  | .node .setComp _ => "set comprehension"
  | .node .dictComp _ => "dict comprehension"
  | .node .dict _ => "dict literal"
  | .node .set _ => "set display"
  | .node .joined _ => "f-string expression"
  | .node .compare _ => "comparison"
  | .node .ifExp _ => "conditional expression"
  | .node .namedExpr _ => "named expression"
  | .node .word ps =>
    let word := (ps.headD .absent).text
    if word == "..." then "ellipsis" else word
  | _ => "literal"

/-- The uses that an expression can be put to as a target. -/
inductive TargetUse where
  | assigned
  | loop
  | deleted
  deriving DecidableEq

mutual

/-- The part of an expression that cannot be a target. In the head of a loop
the left side of a membership test is the target. -/
def Tree.misfit? (use : TargetUse) : Nat → Tree → Option Tree
  | 0, _ => none
  | fuel + 1, t =>
    match t with
    | .node .list _ => misfitOf use fuel t.nodes
    | .node .tuple _ => misfitOf use fuel t.nodes
    | .node .starred _ =>
      if use == .deleted then some t else misfitOf use fuel t.nodes
    | .node .compare ps =>
      if use == .loop then
        let first := (flatAll (ps.drop 1)).headD .absent
        if first.text == "in" then misfitOf use fuel (t.nodes.take 1)
        else none
      else some t
    | .node .name _ => none
    | .node .subscript _ => none
    | .node .member _ => none
    | _ => some t

/-- The first part of several expressions that cannot be a target. -/
def Tree.misfitOf (use : TargetUse) : Nat → List Tree → Option Tree
  | 0, _ => none
  | _, [] => none
  | fuel + 1, t :: rest =>
    match misfit? use fuel t with
    | some bad => some bad
    | none => misfitOf use fuel rest

end

mutual

/-- How many trees a tree consists of. -/
def Tree.size : Tree → Nat
  | .token _ => 1
  | .node _ ps => Tree.sizeOf ps + 1
  | .group ps => Tree.sizeOf ps + 1

/-- How many trees a list of trees consists of. -/
def Tree.sizeOf : List Tree → Nat
  | [] => 1
  | t :: rest => Tree.size t + Tree.sizeOf rest + 1

end

/-- The fault of an expression as a target. -/
def wrongTarget (use : TargetUse) (t : Tree) : Option SyntaxFault :=
  (t.misfit? use (2 * t.size)).map fun bad =>
    let verb := if use == .deleted then "delete" else "assign to"
    ⟨s!"cannot {verb} {bad.description}", bad.line⟩

/-- A mistake if the part at an index cannot be a target. -/
def mistakeTarget (use : TargetUse) (index : Nat) (parts : List Peg) :
    Choice :=
  mistake (fun _ ts => wrongTarget use (ts.getD index .absent)) parts

/-- A mistake on the line of a part, with a wording that names the part. -/
def mistakeNaming (index : Nat) (before : String) (after : String)
    (parts : List Peg) : Choice :=
  mistake (fun _ ts =>
    let bad := ts.getD index .absent
    some ⟨before ++ bad.description ++ after, bad.line⟩) parts

/-- A head of a block, whose keyword is at an index, without a block. -/
def missingBlock (index : Nat) (what : String) (head : List Peg) : Choice :=
  mistake (fun sight ts =>
    let line := (ts.getD index .absent).line
    some ⟨s!"expected an indented block after {what} on line {line}",
      sight.lastLine⟩)
    (head ++ [lineEnd, .notAhead (.sort .indent)])

/-- A head of a block that ends without a colon. -/
def missingColon (head : List Peg) : Choice :=
  mistakeHere "expected ':'" (head ++ [lineEnd])

/-- The name of an old statement that is a function now. -/
def isLegacy (t : Tree) : Bool :=
  let isOld (name : String) : Bool :=
    ["print", "exec"].contains (Text.plainName name)
  match t with
  | .node .name [name] => isOld name.text
  | .token name => isOld name.text
  | _ => false

/-- The wording for one equals sign in a place for two. -/
def maybeEquals : String :=
  "invalid syntax. Maybe you meant '==' or ':=' instead of '='?"

/-- The wording for a comprehension among other arguments. -/
def bareGenerator : String := "Generator expression must be parenthesized"

/-- The wording for a comprehension over several values. -/
def bareTarget : String :=
  "did you forget parentheses around the comprehension target?"

/-- The wording for a starred value of an entry. -/
def starredValue : String :=
  "cannot use a starred expression in a dictionary value"

/-- The wording for an entry without a value. -/
def noEntryValue : String :=
  "expression expected after dictionary key and ':'"

-- =============================================================== rules

open ExpressionRule TargetRule
open StatementRule (block elseBlock exceptBlock exceptStarBlock guard
  importNames subject augmented)

/-- Two expressions with nothing between them inside brackets. -/
def missingComma (sight : Sight) (ts : List Tree) : Option SyntaxFault :=
  let first := ts.headD .absent
  if isLegacy first || sight.depth == 0 then none
  else some ⟨"invalid syntax. Perhaps you forgot a comma?", first.line⟩

/-- An old statement. -/
def legacyCall (_ : Sight) (ts : List Tree) : Option SyntaxFault :=
  let first := ts.headD .absent
  if isLegacy first then
    let name := Text.plainName first.text
    some ⟨s!"Missing parentheses in call to '{name}'. "
      ++ s!"Did you mean {name}(...)?", first.line⟩
  else none

/-- A comprehension behind other arguments. -/
def generatorBehind (_ : Sight) (ts : List Tree) : Option SyntaxFault :=
  let placed :=
    ((Tree.flatAll (ts.take 1)).filter Tree.isNode).filter
      (!Tree.isNamed ·)
  if placed.length ≤ 1 then none
  else some ⟨bareGenerator, (placed.getLastD .absent).line⟩

/-- An argument by place behind one by name. -/
def placedBehind (sight : Sight) (ts : List Tree) : Option SyntaxFault :=
  let unpacks := (Tree.flatAll (ts.take 1)).any (·.isKind .unpacking)
  some ⟨"positional argument follows keyword argument"
    ++ (if unpacks then " unpacking" else ""), sight.lastLine⟩

/-- A word as the name of an argument. -/
def wordAsName (_ : Sight) (ts : List Tree) : Option SyntaxFault :=
  let word := ts.headD .absent
  some ⟨s!"cannot assign to {word.text}", word.line⟩

namespace MistakeRule

/-- Items with a comma between them, each perhaps with a target. -/
def withItems (item : Peg) : Peg :=
  .gather "," (.seq [item, .opt (.seq ["as", starTarget])])

/-- The heads of blocks that manage something. -/
def withHeads : List (List Peg) :=
  [[.opt "async", "with", withItems ExpressionRule.expression],
   [.opt "async", "with", "(", withItems expressions, .opt ",", ")"]]

/-- The name behind an exception. -/
def exceptName : Peg := .opt (.seq ["as", .name])

/-- The rules for mistakes. -/
def body : MistakeRule → Body
  | arguments =>
    .plain
      [mistakeAt 0
        "iterable argument unpacking follows keyword argument unpacking"
        [args, ",", "*"],
       mistakeAt 0 bareGenerator
        [ExpressionRule.expression, forClauses, ",",
         .opt (.oneOf
           [↑args, .seq [ExpressionRule.expression, forClauses]])],
       mistakeAt 0 maybeEquals
        [.name, "=", ExpressionRule.expression, forClauses],
       mistake generatorBehind [args, forClauses],
       mistakeAt 2 bareGenerator
        [args, ",", ExpressionRule.expression, forClauses],
       mistake placedBehind [args, ",", args]]
  | keyword =>
    .plain
      [mistake wordAsName [.oneOf ["True", "False", "None"], "="],
       mistakeAt 0 maybeEquals
        [.name, "=", ExpressionRule.expression, forClauses],
       mistakeAt 0
        ("expression cannot contain assignment, "
          ++ "perhaps you meant \"==\"?")
        [.notAhead (.seq [.name, "="]), ExpressionRule.expression, "="]]
  | legacy =>
    .plain [mistake legacyCall [.name, .notAhead "(", starExpressions]]
  | expression =>
    .plain
      [mistake missingComma
        [.notAhead (.oneOf [.seq [.name, .sort .string], .softKeyword]),
         disjunction, plainExpression],
       mistakeAt 0 "expected 'else' after 'if' expression"
        [disjunction, "if", disjunction, .notAhead (.oneOf ["else", ":"])]]
  | named =>
    .kept
      [mistakeNaming 0 "cannot use assignment expressions with " ""
        [ExpressionRule.expression, ":=", ExpressionRule.expression],
       mistakeAt 0 maybeEquals
        [.name, "=", bitOr, .notAhead (.oneOf ["=", ":="])],
       mistakeNaming 0 "cannot assign to "
        " here. Maybe you meant '==' instead of '='?"
        [.notAhead (.oneOf
          [list, tuple, generator, "True", "None", "False"]),
         bitOr, "=", bitOr, .notAhead (.oneOf ["=", ":="])]]
  | assignment =>
    .plain
      [mistakeNaming 0 "only single target (not " ") can be annotated"
        [annotationTarget, ":", ExpressionRule.expression],
       mistakeAt 0 "only single target (not tuple) can be annotated"
        [starNamedExpression, ",", .many starNamedExpressions, ":",
         ExpressionRule.expression],
       mistakeAt 0 "illegal target for annotation"
        [ExpressionRule.expression, ":", ExpressionRule.expression],
       mistakeTarget .assigned 1
        [.many (.seq [starTargets, "="]), starExpressions, "="],
       mistakeAt 1 "assignment to yield expression not possible"
        [.many (.seq [starTargets, "="]), yielded, "="],
       mistakeNaming 0 "'"
        "' is an illegal expression for augmented assignment"
        [starExpressions, augmented, .oneOf [yielded, starExpressions]]]
  | annotationTarget =>
    .plain [only list, only tuple, pick 1 ["(", annotationTarget, ")"]]
  | deletion => .plain [mistakeTarget .deleted 1 ["del", starExpressions]]
  | block =>
    .plain
      [mistakeHere "expected an indented block"
        [lineEnd, .notAhead (.sort .indent)]]
  | comprehension =>
    .plain
      [mistakeAt 1 "iterable unpacking cannot be used in comprehension"
        [.oneOf ["[", "(", "\x7b"], starred, forClauses],
       mistakeAt 1 bareTarget
        [.oneOf ["[", "\x7b"], starNamedExpression, ",",
         starNamedExpressions, forClauses],
       mistakeAt 1 bareTarget
        [.oneOf ["[", "\x7b"], starNamedExpression, ",", forClauses]]
  | dictComprehension =>
    .plain
      [mistakeAt 1 "dict unpacking cannot be used in dict comprehension"
        ["\x7b", "**", bitOr, forClauses, "\x7d"]]
  | withItem =>
    .plain
      [mistakeTarget .assigned 2
        [ExpressionRule.expression, "as", ExpressionRule.expression,
         .ahead (.oneOf [",", ")", ":"])]]
  | forTarget =>
    .plain [mistakeTarget .loop 2 [.opt "async", "for", starExpressions]]
  | group =>
    .plain
      [mistakeAt 1 "cannot use starred expression here"
        ["(", starred, ")"],
       mistakeAt 1 "cannot use double starred expression here"
        ["(", "**", ExpressionRule.expression, ")"]]
  | importTargets =>
    .plain
      [mistakeHere
        "trailing comma not allowed without surrounding parentheses"
        [importNames, ",", lineEnd]]
  | withStatement => .plain (withHeads.map missingColon)
  | withIndent =>
    .plain (withHeads.map fun head =>
      missingBlock 1 "'with' statement" (head ++ [.mark ":"]))
  | tryStatement =>
    .plain
      [missingBlock 0 "'try' statement" ["try", ":"],
       mistakeHere "expected 'except' or 'finally' block"
        ["try", ":", StatementRule.block,
         .notAhead (.oneOf ["except", "finally"])],
       mistakeHere
        "cannot have both 'except' and 'except*' on the same 'try'"
        ["try", ":", .many StatementRule.block,
         .oneOf
          [.seq [.some exceptBlock, exceptStarBlock],
           .seq [.some exceptStarBlock, exceptBlock]],
         .many StatementRule.block]]
  | exceptStatement =>
    .plain
      [mistakeAt 2 "multiple exception types must be parenthesized"
        ["except", .opt "*", ExpressionRule.expression, ",", expressions,
         exceptName, ":"],
       missingColon
        ["except", .opt "*", ExpressionRule.expression, exceptName],
       missingColon ["except"],
       mistakeHere "expected one or more exception types"
        ["except", "*", .oneOf [lineEnd, ":"]]]
  | finallyStatement =>
    .plain [missingBlock 0 "'finally' statement" ["finally", ":"]]
  | exceptIndent =>
    .plain
      [missingBlock 0 "'except' statement"
        ["except", ExpressionRule.expression, exceptName, ":"],
       missingBlock 0 "'except' statement" ["except", ":"]]
  | exceptStarIndent =>
    .plain
      [missingBlock 0 "'except*' statement"
        ["except", "*", ExpressionRule.expression, exceptName, ":"]]
  | matchStatement =>
    .plain
      [missingColon ["match", subject],
       missingBlock 0 "'match' statement" ["match", subject, ":"]]
  | caseBlock =>
    let head : List Peg := ["case", PatternRule.patterns, .opt guard]
    .plain
      [missingColon head,
       missingBlock 0 "'case' statement" (head ++ [.mark ":"])]
  | asPattern =>
    .plain
      [mistakeAt 2 "cannot use '_' as a target"
        [PatternRule.orPattern, "as", "_"],
       mistakeAt 2 "invalid pattern target"
        [PatternRule.orPattern, "as", .notAhead .name,
         ExpressionRule.expression]]
  | classPattern =>
    .plain
      [mistakeAt 2 "positional patterns follow keyword patterns"
        [PatternRule.nameOrDotted, "(", classArguments]]
  | classArguments =>
    .plain
      [pick 3
        [.opt (.seq [PatternRule.positional, ","]), PatternRule.keywords,
         ",", PatternRule.positional]]
  | ifStatement =>
    .plain
      [missingColon ["if", ExpressionRule.named],
       missingBlock 0 "'if' statement" ["if", ExpressionRule.named, ":"]]
  | elifStatement =>
    .plain
      [missingColon ["elif", ExpressionRule.named],
       missingBlock 0 "'elif' statement" ["elif", ExpressionRule.named, ":"]]
  | elseStatement =>
    .plain [missingBlock 0 "'else' statement" ["else", ":"]]
  | whileStatement =>
    .plain
      [missingColon ["while", ExpressionRule.named],
       missingBlock 0 "'while' statement"
        ["while", ExpressionRule.named, ":"]]
  | forStatement =>
    let head : List Peg :=
      [.opt "async", "for", starTargets, "in", starExpressions]
    .plain
      [missingColon head,
       missingBlock 1 "'for' statement" (head ++ [.mark ":"])]
  | functionRaw =>
    .plain
      [missingBlock 1 "function definition"
        [.opt "async", "def", .name, "(",
         .opt (.rule (.parameter .function .all)), ")",
         .opt (.seq ["->", ExpressionRule.expression]), ":"]]
  | classRaw =>
    .plain
      [missingColon ["class", .name, .opt called],
       missingBlock 0 "class definition" ["class", .name, .opt called, ":"]]
  | entries =>
    .plain
      [together [.gather "," entry, ",", MistakeRule.keyValue],
       mistakeAt 2 starredValue
        [ExpressionRule.expression, ":", "*", bitOr],
       mistakeAt 1 noEntryValue
        [ExpressionRule.expression, ":",
         .ahead (.oneOf ["\x7d", ","])]]
  | keyValue =>
    .plain
      [mistakeAt 0 "':' expected after dictionary key"
        [ExpressionRule.expression, .notAhead ":"],
       mistakeAt 2 starredValue
        [ExpressionRule.expression, ":", "*", bitOr],
       mistakeAt 1 noEntryValue
        [ExpressionRule.expression, ":",
         .ahead (.oneOf ["\x7d", ","])]]

end MistakeRule

/-- The body of every rule. -/
def Rule.body : Rule → Body
  | expression r => r.body
  | target r => r.body
  | parameter form r => r.body form
  | statement r => r.body
  | pattern r => r.body
  | mistake r => r.body

end Toolsmith.Script
