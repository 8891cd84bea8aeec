/-
The rules for statements and for the patterns of cases.
-/
import Toolsmith.Script.Grammar.Expression

namespace Toolsmith.Script

open ExpressionRule (bitOr called expression named starExpressions
  starNamedExpression starNamedExpressions yielded)
open TargetRule (delTargets single singleMember starTarget starTargets)

-- ========================================================== statements

/-- The end of a line. -/
def lineEnd : Peg := .sort .newline

/-- The operators that change what they assign to. -/
def augmentingMarks : List Peg :=
  ["+=", "-=", "*=", "@=", "/=", "%=", "&=", "|=", "^=", "<<=", ">>=",
   "**=", "//="]

/-- Choices with and without a word in front that makes a statement wait. -/
def perhapsAsync (parts : List Peg) : List Choice :=
  [makes .statement parts, makes .statement ("async" :: parts)]

namespace StatementRule

/-- The rules for statements. -/
def body : StatementRule → Body
  | file => .plain [makes .module [.opt statements, .sort .finish]]
  | statements => .plain [together [.some statement]]
  | statement => .plain [only compound, only simpleStatements]
  | simpleStatements =>
    .plain
      [pick 0 [simple, .notAhead ";", lineEnd],
       pick 0 [.gather ";" simple, .opt ";", lineEnd]]
  | simple =>
    .kept
      [only assignment,
       makes .statement [starExpressions],
       pick 0 [.ahead "return", returning],
       pick 0 [.ahead (.oneOf ["import", "from"]), importing],
       pick 0 [.ahead "raise", raising],
       makes .statement ["pass"],
       pick 0 [.ahead "del", deleting],
       makes .statement [.ahead "yield", yielded],
       pick 0 [.ahead "assert", asserting],
       makes .statement ["break"],
       makes .statement ["continue"],
       pick 0 [.ahead "global", global],
       pick 0 [.ahead "nonlocal", nonlocal]]
  | compound =>
    .plain
      [pick 0 [.ahead (.oneOf ["def", "@", "async"]), functionDef],
       pick 0 [.ahead "if", ifStatement],
       pick 0 [.ahead (.oneOf ["class", "@"]), classDef],
       pick 0 [.ahead (.oneOf ["with", "async"]), withStatement],
       pick 0 [.ahead (.oneOf ["for", "async"]), forStatement],
       pick 0 [.ahead "try", tryStatement],
       pick 0 [.ahead "while", whileStatement],
       only matchStatement]
  | assignment =>
    .plain
      [makes .statement
        [.name, ":", expression, .opt (.seq ["=", annotatedValue])],
       makes .statement
        [.oneOf [.seq ["(", single, ")"], singleMember], ":", expression,
         .opt (.seq ["=", annotatedValue])],
       makes .statement
        [.some (.seq [starTargets, "="]),
         .oneOf [yielded, starExpressions], .notAhead "="],
       makes .statement
        [single, augmented, .cut, .oneOf [yielded, starExpressions]],
       late .assignment]
  | annotatedValue => .plain [only yielded, only starExpressions]
  | augmented => .plain (augmentingMarks.map only)
  | returning =>
    .plain [makes .statement ["return", .opt starExpressions]]
  | raising =>
    .plain
      [makes .statement
        ["raise", expression, .opt (.seq ["from", expression])],
       makes .statement ["raise"]]
  | global => .plain [makes .statement ["global", .gather "," .name]]
  | nonlocal => .plain [makes .statement ["nonlocal", .gather "," .name]]
  | deleting =>
    .plain
      [makes .statement
        ["del", delTargets, .ahead (.oneOf [";", lineEnd])],
       late .deletion]
  | asserting =>
    .plain
      [makes .statement
        ["assert", expression, .opt (.seq [",", expression])]]
  | importing =>
    .plain
      [makes .statement ["import", dottedNames],
       makes .statement
        ["from", .many (.oneOf [".", "..."]), dottedName, "import",
         importTargets],
       makes .statement
        ["from", .some (.oneOf [".", "..."]), "import", importTargets]]
  | importTargets =>
    .plain
      [together ["(", importNames, .opt ",", ")"],
       together [importNames, .notAhead ","],
       only "*",
       late .importTargets]
  | importNames => .plain [only (.gather "," importName)]
  | importName => .plain [together [.name, .opt (.seq ["as", .name])]]
  | dottedNames =>
    .plain
      [only (.gather "," (.seq [dottedName, .opt (.seq ["as", .name])]))]
  | dottedName => .kept [together [.name, .many (.seq [".", .name])]]
  | block =>
    .kept
      [pick 2 [lineEnd, .sort .indent, statements, .sort .dedent],
       only simpleStatements,
       late .block]
  | decorators =>
    .plain [makes .decorators [.some (.seq ["@", named, lineEnd])]]
  | classDef =>
    .plain [makes .classDef [decorators, classRaw],
      makes .classDef [classRaw]]
  | classRaw =>
    .plain
      [late .classRaw,
       together ["class", .name, .opt called, ":", block]]
  | functionDef =>
    .plain [makes .functionDef [decorators, functionRaw],
      makes .functionDef [functionRaw]]
  | functionRaw =>
    let parts : List Peg :=
      ["def", .name, .demand "(", .opt (.rule (.parameter .function .all)),
       ")", .opt returns, .demand ":", block]
    .plain
      [late .functionRaw, together parts, together ("async" :: parts)]
  | returns => .plain [makes .returns ["->", expression]]
  | ifStatement =>
    .plain
      [late .ifStatement,
       makes .statement ["if", named, ":", block, elifStatement],
       makes .statement ["if", named, ":", block, .opt elseBlock]]
  | elifStatement =>
    .plain
      [late .elifStatement,
       makes .statement ["elif", named, ":", block, elifStatement],
       makes .statement ["elif", named, ":", block, .opt elseBlock]]
  | elseBlock =>
    .plain [late .elseStatement, together ["else", .demand ":", block]]
  | whileStatement =>
    .plain
      [late .whileStatement,
       makes .statement ["while", named, ":", block, .opt elseBlock]]
  | forStatement =>
    .plain
      (late .forStatement ::
        perhapsAsync
          ["for", starTargets, "in", .cut, starExpressions, ":", block,
           .opt elseBlock]
        ++ [late .forTarget])
  | withStatement =>
    let bracketed : List Peg :=
      ["with", "(", .gather "," withItem, .opt ",", ")", ":", block]
    let bare : List Peg := ["with", .gather "," withItem, ":", block]
    .plain
      [late .withIndent,
       makes .statement bracketed,
       makes .statement bare,
       makes .statement ("async" :: bracketed),
       makes .statement ("async" :: bare),
       late .withStatement]
  | withItem =>
    .plain
      [makes .part
        [expression, "as", starTarget, .ahead (.oneOf [",", ")", ":"])],
       late .withItem,
       makes .part [expression]]
  | tryStatement =>
    let handlers (r : StatementRule) : Choice :=
      makes .statement
        ["try", .demand ":", block, .some r, .opt elseBlock,
         .opt finallyBlock]
    .plain
      [late .tryStatement,
       makes .statement ["try", .demand ":", block, finallyBlock],
       handlers exceptBlock,
       handlers exceptStarBlock]
  | exceptBlock =>
    .plain
      [late .exceptIndent,
       makes .part
        ["except", expression, .opt (.seq ["as", .name]), ":", block],
       makes .part ["except", ":", block],
       late .exceptStatement]
  | exceptStarBlock =>
    .plain
      [late .exceptStarIndent,
       makes .part
        ["except", "*", expression, .opt (.seq ["as", .name]), ":", block],
       late .exceptStatement]
  | finallyBlock =>
    .plain [late .finallyStatement, together ["finally", .demand ":", block]]
  | matchStatement =>
    .plain
      [makes .statement
        ["match", subject, ":", lineEnd, .sort .indent, .some caseBlock,
         .sort .dedent],
       late .matchStatement]
  | subject =>
    .plain
      [makes .tuple
        [starNamedExpression, ",", .opt starNamedExpressions],
       only named]
  | caseBlock =>
    .plain
      [late .caseBlock,
       makes .part ["case", PatternRule.patterns, .opt guard, ":", block]]
  | guard => .plain [pick 1 ["if", named]]

end StatementRule

-- ============================================================ patterns

/-- A number that has to be imaginary or must not be. -/
def wrongPart (imaginary : Bool) (sight : Sight) (parts : List Tree) :
    Option SyntaxFault :=
  let token := parts.headD .absent
  let found : Bool :=
    match numberValue token.text.toList with
    | .ok .imaginary => true
    | _ => false
  match wrongNumber sight parts with
  | some fault => some fault
  | none =>
    if found == imaginary then none
    else
      let kind := if imaginary then "imaginary" else "real"
      some ⟨s!"{kind} number required in complex literal", token.line⟩

namespace PatternRule

/-- What may not follow a name that stands for itself. -/
def nameEnd : Peg := .notAhead (.oneOf [".", "(", "="])

/-- The rules for patterns. -/
def body : PatternRule → Body
  | patterns => .plain [only openSequence, only pattern]
  | pattern => .plain [only asPattern, only orPattern]
  | asPattern =>
    .plain [together [orPattern, "as", capture], late .asPattern]
  | orPattern => .plain [together [.gather "|" closed]]
  | closed =>
    .kept
      [only literal, only capture, only "_", only value, only group,
       only sequence, only mapping, only classPattern]
  | literal =>
    .plain
      [pick 0 [signedNumber, .notAhead (.oneOf ["+", "-"])],
       only complex,
       only ExpressionRule.strings,
       only "None", only "True", only "False"]
  | complex =>
    .plain
      [together [signedReal, "+", imaginary],
       together [signedReal, "-", imaginary]]
  | signedNumber =>
    let number : Rule := .pattern .number
    .plain [only (.rule number), together ["-", .rule number]]
  | number => .plain [⟨[.sort .number], .checked wrongNumber, false⟩]
  | signedReal => .plain [only real, together ["-", real]]
  | real => .plain [⟨[.sort .number], .checked (wrongPart false), false⟩]
  | imaginary =>
    .plain [⟨[.sort .number], .checked (wrongPart true), false⟩]
  | capture => .plain [pick 0 [.notAhead "_", .name, nameEnd]]
  | value => .plain [pick 0 [dotted, nameEnd]]
  | dotted => .kept [together [.name, .some (.seq [".", .name])]]
  | nameOrDotted => .kept [together [.name, .many (.seq [".", .name])]]
  | group => .plain [pick 1 ["(", pattern, ")"]]
  | sequence =>
    .plain
      [together ["[", .opt maybeSequence, "]"],
       together ["(", .opt openSequence, ")"]]
  | openSequence => .plain [together [maybeStar, ",", .opt maybeSequence]]
  | maybeSequence => .plain [together [.gather "," maybeStar, .opt ","]]
  | maybeStar => .plain [only star, only pattern]
  | star => .kept [together ["*", capture], together ["*", "_"]]
  | mapping =>
    .plain
      [together ["\x7b", "\x7d"],
       together ["\x7b", doubleStar, .opt ",", "\x7d"],
       together ["\x7b", items, ",", doubleStar, .opt ",", "\x7d"],
       together ["\x7b", items, .opt ",", "\x7d"]]
  | items => .plain [together [.gather "," keyValue]]
  | keyValue => .plain [together [.oneOf [literal, dotted], ":", pattern]]
  | doubleStar => .plain [together ["**", capture]]
  | classPattern =>
    .plain
      [together [nameOrDotted, "(", ")"],
       together [nameOrDotted, "(", positional, .opt ",", ")"],
       together [nameOrDotted, "(", keywords, .opt ",", ")"],
       together
        [nameOrDotted, "(", positional, ",", keywords, .opt ",", ")"],
       late .classPattern]
  | positional => .plain [together [.gather "," pattern]]
  | keywords => .plain [together [.gather "," keyword]]
  | keyword => .plain [together [.name, "=", pattern]]

end PatternRule

end Toolsmith.Script
