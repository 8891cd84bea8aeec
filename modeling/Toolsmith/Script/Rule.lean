/-
The names of the grammar's rules, by what they describe, and the form in
which a rule is written down: choices, of which the first one that fits
counts, each a sequence of parts with what is made of them.
-/
import Toolsmith.Script.Tree

namespace Toolsmith.Script

/-- Rules for expressions. -/
inductive ExpressionRule where
  | expressions | expression | plainExpression | yielded
  | starExpressions | starExpression | starNamedExpressions
  | starNamedExpression | assigned | named | disjunction | conjunction
  | inversion | comparison | comparePair | bitOr | bitXor | bitAnd | shift
  | sum | term | factor | power | awaited | primary | primaryTail | called | slices
  | slice | atom | group | lambda | strings | list | tuple | set | dict
  | entries | entry | keyValue | forClauses | forClause | listComp | setComp
  | generator | dictComp | arguments | args | kwargs | starred
  | keywordOrStarred | keywordOrUnpacking
  deriving DecidableEq, Repr

/-- Rules for what can be assigned to or deleted. -/
inductive TargetRule where
  | starTargets | starTargetsList | starTargetsTuple | starTarget
  | starTargetAtom | starAtom | single | singleMember | member | memberTail
  | memberNext | delTargets | delTarget | delAtom
  deriving DecidableEq, Repr

/-- Rules for the parameters of functions. -/
inductive ParameterRule where
  | all | sequence | slashPlain | slashDefault | starTail | doubleStar
  | plain | starPlain | starOne | withDefault | maybeDefault | one | default
  | invalidAll | invalidLead | invalidDefault | invalidStar | invalidDouble
  deriving DecidableEq, Repr

/-- The two forms of functions, whose parameters end with a bracket or with
a colon. -/
inductive ParameterForm where
  | function
  | lambda
  deriving DecidableEq, Repr

/-- Rules for statements. -/
inductive StatementRule where
  | file | statements | statement | simpleStatements | simple | compound
  | assignment | annotatedValue | augmented | returning | raising | global
  | nonlocal | deleting | asserting | importing | importTargets
  | importNames | importName | dottedNames | dottedName | block | decorators
  | classDef | classRaw | functionDef | functionRaw | ifStatement
  | elifStatement | elseBlock | whileStatement | forStatement
  | withStatement | withItem | tryStatement | exceptBlock | exceptStarBlock
  | finallyBlock | matchStatement | subject | caseBlock | guard | returns
  deriving DecidableEq, Repr

/-- Rules for the patterns of cases. -/
inductive PatternRule where
  | patterns | pattern | asPattern | orPattern | closed | literal | complex
  | signedNumber | number | signedReal | real | imaginary | capture | value
  | dotted | nameOrDotted | group | sequence | openSequence | maybeSequence
  | maybeStar | star | mapping | items | keyValue | doubleStar | classPattern
  | positional | keywords | keyword
  deriving DecidableEq, Repr

/-- Rules that hold for mistakes only. -/
inductive MistakeRule where
  | arguments | keyword | legacy | expression | named | assignment
  | annotationTarget | deletion | block | comprehension | dictComprehension
  | withItem | forTarget | group | importTargets | withStatement
  | withIndent | tryStatement | exceptStatement | finallyStatement
  | exceptIndent | exceptStarIndent | matchStatement | caseBlock
  | asPattern | classPattern | classArguments | ifStatement
  | elifStatement | elseStatement | whileStatement | forStatement
  | functionRaw | classRaw | entries | keyValue
  deriving DecidableEq, Repr

/-- All rules. -/
inductive Rule where
  | expression (r : ExpressionRule)
  | target (r : TargetRule)
  | parameter (form : ParameterForm) (r : ParameterRule)
  | statement (r : StatementRule)
  | pattern (r : PatternRule)
  | mistake (r : MistakeRule)
  deriving DecidableEq, Repr

/-- A part of a choice. -/
inductive Peg where
  /-- A keyword or an operator. -/
  | mark (text : String)
  /-- Any token of a sort. -/
  | sort (s : TokenSort)
  /-- A name that is no keyword. -/
  | name
  /-- A name that is a keyword in some places only. -/
  | softKeyword
  | rule (r : Rule)
  | seq (parts : List Peg)
  | oneOf (choices : List Peg)
  | opt (p : Peg)
  | many (p : Peg)
  | some (p : Peg)
  /-- One or more, with a mark between them. -/
  | gather (between : String) (p : Peg)
  /-- What follows fits; nothing is taken. -/
  | ahead (p : Peg)
  /-- What follows does not fit; nothing is taken. -/
  | notAhead (p : Peg)
  /-- From here on no later choice of the rule counts. -/
  | cut
  /-- A mark that has to follow. -/
  | demand (text : String)

instance : Coe String Peg := ⟨.mark⟩
instance : Coe ExpressionRule Peg := ⟨fun r => .rule (.expression r)⟩
instance : Coe TargetRule Peg := ⟨fun r => .rule (.target r)⟩
instance : Coe StatementRule Peg := ⟨fun r => .rule (.statement r)⟩
instance : Coe PatternRule Peg := ⟨fun r => .rule (.pattern r)⟩
instance : Coe MistakeRule Peg := ⟨fun r => .rule (.mistake r)⟩

/-- What is wrong with a program text, and on which line. -/
structure SyntaxFault where
  message : String
  line : Nat
  deriving DecidableEq, Repr

/-- What an action on the parts of a choice can see beyond them: the line of
the last token that has been looked at, and how many brackets are open
behind the last token taken. -/
structure Sight where
  lastLine : Nat
  depth : Nat

/-- What is made of the parts of a choice. A part that takes nothing makes
nothing; every other one makes one tree. -/
inductive Make where
  /-- All parts together. -/
  | group
  /-- The part at an index. -/
  | part (index : Nat)
  /-- A node that holds the parts. -/
  | node (kind : Kind)
  /-- The first part with the operators and operands of the second. -/
  | chain (kind : Kind)
  /-- The first part with the tails of the second. -/
  | trail
  /-- The value of the string tokens of the first part. -/
  | strings
  /-- The first part, unless something is wrong with it. -/
  | checked (wrong : Sight → List Tree → Option SyntaxFault)
  /-- A fault, or else the whole rule does not fit. -/
  | refuse (wrong : Sight → List Tree → Option SyntaxFault)

/-- One way for a rule to fit. A late choice counts on the second reading
only, which looks for the reason of a fault. -/
structure Choice where
  parts : List Peg
  make : Make
  late : Bool

/-- The body of a rule. `remembered` says that its result at a place is kept
for the next time; a calm rule switches late choices off inside. -/
structure Body where
  choices : List Choice
  remembered : Bool
  calm : Bool

namespace Body

/-- A body of choices. -/
def plain (choices : List Choice) : Body := ⟨choices, false, false⟩

/-- A body whose results are kept. -/
def kept (choices : List Choice) : Body := ⟨choices, true, false⟩

end Body

-- ==================================================== writing rules down

/-- Parts that make a group. -/
def together (parts : List Peg) : Choice := ⟨parts, .group, false⟩

/-- Parts of which one counts. -/
def pick (index : Nat) (parts : List Peg) : Choice :=
  ⟨parts, .part index, false⟩

/-- One part. -/
def only (part : Peg) : Choice := pick 0 [part]

/-- Parts that make a node. -/
def makes (kind : Kind) (parts : List Peg) : Choice :=
  ⟨parts, .node kind, false⟩

/-- A mistake that is looked for on the second reading. -/
def late (r : MistakeRule) : Choice := ⟨[.rule (.mistake r)], .part 0, true⟩

/-- Parts that are a mistake, unless `wrong` finds none in them. -/
def mistake (wrong : Sight → List Tree → Option SyntaxFault)
    (parts : List Peg) : Choice :=
  ⟨parts, .refuse wrong, false⟩

/-- A mistake on the line of one of the parts. -/
def mistakeAt (index : Nat) (message : String) (parts : List Peg) : Choice :=
  mistake (fun _ ts => some ⟨message, (ts.getD index .absent).line⟩) parts

/-- A mistake on the line of the last token looked at. -/
def mistakeHere (message : String) (parts : List Peg) : Choice :=
  mistake (fun sight _ => some ⟨message, sight.lastLine⟩) parts

end Toolsmith.Script
