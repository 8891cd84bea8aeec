/-
The rules for expressions, for what can be assigned to or deleted, and for
the parameters of functions.
-/
import Toolsmith.Script.Literal
import Toolsmith.Script.Rule

namespace Toolsmith.Script

-- ========================================================= expressions

/-- Operands with operators between them, joined from the left. -/
def joinedFromLeft (operand : Peg) (operators : List String) : Body :=
  let operator : Peg :=
    match operators with
    | [o] => o
    | os => .oneOf (os.map .mark)
  .kept [⟨[operand, .many (.seq [operator, operand])], .chain .binOp, false⟩]

/-- One part, or several with commas between them, which make a tuple. -/
def tupleOf (item : Peg) : Body :=
  .plain
    [makes .tuple [item, .some (.seq [",", item]), .opt ","],
     makes .tuple [item, ","],
     only item]

/-- A comparison operator. -/
def comparisonMarks : List (List Peg) :=
  [["=="], ["!="], ["<="], ["<"], [">="], [">"], ["not", "in"], ["in"],
   ["is", "not"], ["is"]]

/-- A number token with too many digits. -/
def wrongNumber (_ : Sight) (parts : List Tree) : Option SyntaxFault :=
  let token := parts.headD .absent
  match numberValue token.text.toList with
  | .error count => some ⟨tooManyDigits count, token.line⟩
  | .ok _ => none

namespace ExpressionRule

/-- The rules for expressions. -/
def body : ExpressionRule → Body
  | expressions => tupleOf expression
  | expression =>
    .kept
      [late .expression,
       late .legacy,
       makes .ifExp [disjunction, "if", disjunction, "else", expression],
       only disjunction,
       only lambda]
  | plainExpression =>
    ⟨[makes .ifExp [disjunction, "if", disjunction, "else", expression],
      only disjunction,
      only lambda], false, true⟩
  | yielded =>
    .plain
      [makes .yieldExpr ["yield", "from", expression],
       makes .yieldExpr ["yield", .opt starExpressions]]
  | starExpressions => tupleOf starExpression
  | starExpression =>
    .kept [makes .starred ["*", bitOr], only expression]
  | starNamedExpressions =>
    .plain [together [.gather "," starNamedExpression, .opt ","]]
  | starNamedExpression =>
    .plain [makes .starred ["*", bitOr], only named]
  | assigned =>
    .plain [makes .namedExpr [.name, ":=", .cut, expression]]
  | named =>
    .plain
      [only assigned,
       late .named,
       pick 0 [expression, .notAhead ":="]]
  | disjunction =>
    .kept
      [makes .boolOp [conjunction, .some (.seq ["or", conjunction])],
       only conjunction]
  | conjunction =>
    .kept
      [makes .boolOp [inversion, .some (.seq ["and", inversion])],
       only inversion]
  | inversion =>
    .kept [makes .unaryOp ["not", inversion], only comparison]
  | comparison =>
    .plain [makes .compare [bitOr, .some comparePair], only bitOr]
  | comparePair =>
    .plain (comparisonMarks.map fun marks => together (marks ++ [↑bitOr]))
  | bitOr => joinedFromLeft bitXor ["|"]
  | bitXor => joinedFromLeft bitAnd ["^"]
  | bitAnd => joinedFromLeft shift ["&"]
  | shift => joinedFromLeft sum ["<<", ">>"]
  | sum => joinedFromLeft term ["+", "-"]
  | term => joinedFromLeft factor ["*", "/", "//", "%", "@"]
  | factor =>
    .kept
      [makes .unaryOp [.oneOf ["+", "-", "~"], factor],
       only power]
  | power =>
    .plain [makes .binOp [awaited, "**", factor], only awaited]
  | awaited =>
    .kept [makes .awaitExpr ["await", primary], only primary]
  | primary => .kept [⟨[atom, .many primaryTail], .trail, false⟩]
  | primaryTail =>
    .plain
      [makes .memberTail [".", .name],
       only generator,
       only called,
       makes .subscriptTail ["[", slices, "]"]]
  | called => .plain [makes .callTail ["(", .opt arguments, ")"]]
  | slices =>
    .plain
      [pick 0 [slice, .notAhead ","],
       makes .tuple [.gather "," (.oneOf [slice, starred]), .opt ","]]
  | slice =>
    .plain
      [makes .slice [.opt expression, ":", .opt expression,
        .opt (.seq [":", .opt expression])],
       only named]
  | atom =>
    .plain
      [makes .name [.name],
       makes .word [.oneOf ["True", "False", "None"]],
       pick 0 [.ahead (.sort .string), strings],
       ⟨[.sort .number], .checked wrongNumber, false⟩,
       pick 0 [.ahead "(", .oneOf [tuple, group, generator]],
       pick 0 [.ahead "[", .oneOf [list, listComp]],
       pick 0 [.ahead "\x7b", .oneOf [dict, set, dictComp, setComp]],
       makes .word ["..."]]
  | group =>
    .plain
      [pick 1 ["(", .oneOf [yielded, named], ")"],
       late .group]
  | lambda =>
    .plain
      [makes .lambda ["lambda", .opt (.rule (.parameter .lambda .all)), ":",
        expression]]
  | strings => .kept [⟨[.some (.sort .string)], .strings, false⟩]
  | list => .plain [makes .list ["[", .opt starNamedExpressions, "]"]]
  | tuple =>
    .plain
      [makes .tuple ["(",
        .opt (.seq [starNamedExpression, ",", .opt starNamedExpressions]),
        ")"]]
  | set => .plain [makes .set ["\x7b", starNamedExpressions, "\x7d"]]
  | dict =>
    .plain
      [makes .dict ["\x7b", .opt entries, "\x7d"],
       together ["\x7b", MistakeRule.entries, "\x7d"]]
  | entries => .plain [together [.gather "," entry, .opt ","]]
  | entry => .plain [makes .entry ["**", bitOr], only keyValue]
  | keyValue => .plain [makes .entry [expression, ":", expression]]
  | forClauses => .plain [together [.some forClause]]
  | forClause =>
    let clause : List Peg :=
      ["for", TargetRule.starTargets, "in", .cut, disjunction,
       .many (.seq ["if", disjunction])]
    .plain
      [makes .part ("async" :: clause),
       makes .part clause,
       late .forTarget]
  | listComp =>
    .plain
      [makes .listComp ["[", named, forClauses, "]"], late .comprehension]
  | setComp =>
    .plain
      [makes .setComp ["\x7b", named, forClauses, "\x7d"],
       late .comprehension]
  | generator =>
    .plain
      [makes .generator ["(",
        .oneOf [assigned, .seq [expression, .notAhead ":="]],
        forClauses, ")"],
       late .comprehension]
  | dictComp =>
    .plain
      [makes .dictComp ["\x7b", keyValue, forClauses, "\x7d"],
       late .dictComprehension]
  | arguments =>
    .kept
      [pick 0 [args, .opt ",", .ahead ")"],
       late .arguments]
  | args =>
    .plain
      [together
        [.gather "," (.oneOf
          [starred,
           .seq [.oneOf [assigned, .seq [expression, .notAhead ":="]],
             .notAhead "="]]),
         .opt (.seq [",", kwargs])],
       together [kwargs]]
  | kwargs =>
    .plain
      [together [.gather "," keywordOrStarred, ",",
        .gather "," keywordOrUnpacking],
       together [.gather "," keywordOrStarred],
       together [.gather "," keywordOrUnpacking]]
  | starred =>
    .plain
      [makes .starred ["*", expression]]
  | keywordOrStarred =>
    .plain
      [late .keyword,
       makes .keyword [.name, "=", expression],
       only starred]
  | keywordOrUnpacking =>
    .plain
      [late .keyword,
       makes .keyword [.name, "=", expression],
       makes .unpacking ["**", expression]]

end ExpressionRule

-- ============================================================= targets

namespace TargetRule

/-- A member of something: an attribute, or what brackets select, behind
which the given part fits. -/
def members (base next : Peg) : List Choice :=
  [makes .member [base, ".", .name, next],
   makes .subscript [base, "[", ExpressionRule.slices, "]", next]]

/-- The rules for targets. -/
def body : TargetRule → Body
  | starTargets =>
    .plain
      [pick 0 [starTarget, .notAhead ","],
       makes .tuple [starTarget, .many (.seq [",", starTarget]), .opt ","]]
  | starTargetsList => .plain [together [.gather "," starTarget, .opt ","]]
  | starTargetsTuple =>
    .plain
      [together [starTarget, .some (.seq [",", starTarget]), .opt ","],
       together [starTarget, ","]]
  | starTarget =>
    .kept
      [makes .starred ["*", .seq [.notAhead "*", starTarget]],
       only starTargetAtom]
  | starTargetAtom =>
    .kept (members member (.notAhead memberNext) ++ [only starAtom])
  | starAtom =>
    .plain
      [makes .name [.name],
       pick 1 ["(", starTargetAtom, ")"],
       makes .tuple ["(", .opt starTargetsTuple, ")"],
       makes .list ["[", .opt starTargetsList, "]"]]
  | single =>
    .plain
      [only singleMember,
       makes .name [.name],
       pick 1 ["(", single, ")"]]
  | singleMember => .plain (members member (.notAhead memberNext))
  | member =>
    .kept
      [⟨[ExpressionRule.atom, .ahead memberNext, .many memberTail], .trail,
        false⟩]
  | memberTail =>
    .plain
      [makes .memberTail [".", .name, .ahead memberNext],
       makes .subscriptTail
        ["[", ExpressionRule.slices, "]", .ahead memberNext],
       pick 0 [ExpressionRule.generator, .ahead memberNext],
       pick 0 [ExpressionRule.called, .ahead memberNext]]
  | memberNext => .plain [only "(", only "[", only "."]
  | delTargets => .plain [together [.gather "," delTarget, .opt ","]]
  | delTarget =>
    .kept (members member (.notAhead memberNext) ++ [only delAtom])
  | delAtom =>
    .plain
      [makes .name [.name],
       pick 1 ["(", delTarget, ")"],
       makes .tuple ["(", .opt delTargets, ")"],
       makes .list ["[", .opt delTargets, "]"]]

end TargetRule

-- ========================================================== parameters

/-- What stands behind the last parameter. -/
def ParameterForm.closer : ParameterForm → String
  | function => ")"
  | lambda => ":"

namespace ParameterRule

open ParameterForm

/-- A parameter with the comma behind it, or at the end of all. -/
def closed (form : ParameterForm) (parts : List Peg) : Body :=
  .plain
    [together (parts ++ [.mark ","]),
     together (parts ++ [.ahead form.closer])]

/-- The wording for parameters in brackets. -/
def inBrackets : ParameterForm → String
  | function => "Function parameters cannot be parenthesized"
  | lambda => "Lambda expression parameters cannot be parenthesized"

/-- The rules for parameters. -/
def body (form : ParameterForm) (r : ParameterRule) : Body :=
  let p (r : ParameterRule) : Peg := .rule (.parameter form r)
  let wrong (r : ParameterRule) : Choice := ⟨[p r], .part 0, true⟩
  let slashes : Peg := .oneOf [p slashPlain, p slashDefault]
  let afterStar : Peg := .oneOf [",", p plain]
  let lateDouble : String := "arguments cannot follow var-keyword argument"
  match r with
  | all => .plain [wrong invalidAll, makes .arguments [p sequence]]
  | sequence =>
    .plain
      [together [p slashPlain, .many (p plain), .many (p withDefault),
        .opt (p starTail)],
       together [p slashDefault, .many (p withDefault), .opt (p starTail)],
       together [.some (p plain), .many (p withDefault),
        .opt (p starTail)],
       together [.some (p withDefault), .opt (p starTail)],
       together [p starTail]]
  | slashPlain =>
    .plain
      [together [.some (p plain), "/", ","],
       together [.some (p plain), "/", .ahead form.closer]]
  | slashDefault =>
    .plain
      [together [.many (p plain), .some (p withDefault), "/", ","],
       together [.many (p plain), .some (p withDefault), "/",
        .ahead form.closer]]
  | starTail =>
    .plain
      ([wrong invalidStar,
        together ["*", p plain, .many (p maybeDefault),
          .opt (p doubleStar)]]
      ++ (match form with
        | function =>
          [together ["*", p starPlain, .many (p maybeDefault),
            .opt (p doubleStar)]]
        | lambda => [])
      ++ [together ["*", ",", .some (p maybeDefault), .opt (p doubleStar)],
        only (p doubleStar)])
  | doubleStar => .plain [wrong invalidDouble, together ["**", p plain]]
  | plain => closed form [p one]
  | starPlain => closed form [p starOne]
  | starOne =>
    .plain
      [makes .parameter [.name, ":", ExpressionRule.starExpression]]
  | withDefault => closed form [p one, p default]
  | maybeDefault => closed form [p one, .opt (p default)]
  | one =>
    match form with
    | function =>
      .plain
        [makes .parameter
          [.name, .opt (.seq [":", ExpressionRule.expression])]]
    | lambda => .plain [makes .parameter [.name]]
  | default =>
    .plain
      [makes .default ["=", ExpressionRule.expression],
       wrong invalidDefault]
  | invalidAll =>
    .plain
      [mistakeAt 2 "non-default argument follows default argument"
        [.many (p plain), p invalidLead, p plain],
       mistakeAt 1 (inBrackets form)
        [.many (p plain), "(",
         (match form with
          | function => .some (p plain)
          | lambda => .gather "," (p one)),
         .opt ",", ")"],
       mistakeAt 0 "at least one argument must precede /" ["/", ","],
       mistakeAt 2 "/ may appear only once"
        [slashes, .many (p maybeDefault), "/"],
       mistakeAt 5 "/ must be ahead of *"
        [.opt slashes, .many (p maybeDefault), "*", afterStar,
         .many (p maybeDefault), "/"],
       mistakeAt 2 "expected comma between / and *"
        [.some (p maybeDefault), "/", "*"]]
  | invalidLead =>
    .plain [only (p slashDefault), together [.some (p withDefault)]]
  | invalidDefault =>
    .plain
      [mistakeAt 0 "expected default value expression"
        ["=", .ahead (.oneOf [")", ","])]]
  | invalidStar =>
    .plain
      [(match form with
        | function => mistakeAt 0
        | lambda => mistakeHere) "named arguments must follow bare *"
        ["*", .oneOf [form.closer, .seq [",", .oneOf [form.closer, "**"]]]],
       mistakeAt 2 "var-positional argument cannot have default value"
        ["*", p one, "="],
       mistakeAt 3 "* argument may appear only once"
        ["*", .oneOf [p plain, ","], .many (p maybeDefault), "*",
         .oneOf [p plain, ","]]]
  | invalidDouble =>
    .plain
      [mistakeAt 2 "var-keyword argument cannot have default value"
        ["**", p one, "="],
       mistakeAt 3 lateDouble ["**", p one, ",", p one],
       mistakeAt 3 lateDouble
        ["**", p one, ",", .oneOf ["*", "**", "/"]]]

end ParameterRule

end Toolsmith.Script
