/-
Reading a program text by the rules of its grammar. A text is read once; if
no rule fits, it is read again with the rules for mistakes, which say what is
wrong. What cuts the text into tokens may be at fault as well, and has the
last word.
-/
import Toolsmith.Script.Grammar.Mistake

namespace Toolsmith.Script

-- =============================================================== state

/-- What is being read: the tokens, what is wrong behind them, and what is
put in front of the wording of faults. -/
structure Source where
  tokens : Array Token
  fault : Option TokenFault
  lead : String

/-- How many tokens have been looked at, and for each place the results of
rules that are kept. -/
structure Progress where
  reach : Nat
  memory : Array (List (Rule × Option (Nat × Tree)))

/-- Why reading stops. A fault that the grammar finds comes with the line of
the last token looked at. -/
inductive Stop where
  | tokens (fault : TokenFault)
  | grammar (fault : SyntaxFault) (lastLine : Nat)

/-- A step of reading. -/
abbrev Run := StateT Progress (Except Stop)

namespace Source

/-- No token has been looked at, and nothing is remembered. -/
def start (s : Source) : Progress :=
  ⟨0, (List.replicate (s.tokens.size + 1) []).toArray⟩

/-- Progress with an empty memory. -/
def again (s : Source) (p : Progress) : Progress :=
  { s.start with reach := p.reach }

/-- The last token looked at. -/
def last? (s : Source) (p : Progress) : Option Token :=
  s.tokens[p.reach - 1]?

/-- The line of the last token looked at. -/
def lastLine (s : Source) (p : Progress) : Nat :=
  ((s.last? p).map (·.line)).getD 1

/-- Stops with a fault that the grammar finds. -/
def blame {α : Type} (s : Source) (fault : SyntaxFault) : Run α := do
  throw (.grammar { fault with message := s.lead ++ fault.message }
    (s.lastLine (← get)))

/-- Stops with a fault on the line of the last token looked at. -/
def blameHere {α : Type} (s : Source) (message : String) : Run α := do
  s.blame ⟨message, s.lastLine (← get)⟩

/-- Looks at the token at a place. -/
def token? (s : Source) (place : Nat) : Run (Option Token) := do
  match s.tokens[place]? with
  | some t =>
    modify fun p => { p with reach := max p.reach (place + 1) }
    return some t
  | none =>
    match s.fault with
    | some fault => throw (.tokens fault)
    | none => return none

/-- What a rule has been found to be at a place. -/
def remembered (r : Rule) (place : Nat) :
    Run (Option (Option (Nat × Tree))) := do
  let p ← get
  return (p.memory.getD place []).lookup r

/-- Remembers what a rule is at a place. -/
def remember (r : Rule) (place : Nat) (found : Option (Nat × Tree)) :
    Run Unit :=
  modify fun p =>
    { p with memory := p.memory.modify place ((r, found) :: ·) }

/-- The fault of a reading that stopped. A fault of the tokens that shows by
itself goes before one of the grammar, and so does a bracket that is never
closed, if it opens on an earlier line. -/
def verdict (s : Source) : Stop → SyntaxFault
  | .tokens fault =>
    ⟨(if fault.loud then "" else s.lead) ++ fault.message, fault.line⟩
  | .grammar found lastLine =>
    match s.fault with
    | some fault =>
      if fault.loud then ⟨fault.message, fault.line⟩
      else
        match fault.bracket with
        | some (c, line) =>
          if line < lastLine then
            ⟨s.lead ++ s!"'{c}' was never closed", line⟩
          else found
        | none => found
    | none => found

/-- The fault of a text that fits no rule for mistakes either. `first` is
the progress of the first reading and `second` that of the second. -/
def unknownFault (s : Source) (first second : Progress) : SyntaxFault :=
  let here (message : String) : SyntaxFault :=
    ⟨s.lead ++ message, s.lastLine second⟩
  match (s.last? first).map Token.sort with
  | some .indent => here "unexpected indent"
  | some .dedent => here "unexpected unindent"
  | _ =>
    s.verdict (.grammar ⟨s.lead ++ "invalid syntax", s.lastLine first⟩
      (s.lastLine second))

end Source

/-- The words that are never names. -/
def keywords : List String :=
  ["False", "None", "True", "and", "as", "assert", "async", "await",
   "break", "class", "continue", "def", "del", "elif", "else", "except",
   "finally", "for", "from", "global", "if", "import", "in", "is",
   "lambda", "nonlocal", "not", "or", "pass", "raise", "return", "try",
   "while", "with", "yield"]

/-- The words that are keywords in some places. -/
def softKeywords : List String := ["_", "case", "match"]

/-- The name passes for a keyword of some places: it is the start of one. -/
def seemsSoftKeyword (name : String) : Bool :=
  softKeywords.any fun word => name.toList.isPrefixOf word.toList

/-- The token is a keyword or an operator of the given text. -/
def Token.isMark (t : Token) (text : String) : Bool :=
  (t.sort == .name || t.sort == .operator) && t.text == text

-- ============================================================= strings

/-- The wording for strings of both kinds side by side. -/
def mixedStrings : String := "cannot mix bytes and nonbytes literals"

/-- The wording for other characters in a string of octets. -/
def octetsOnly : String := "bytes can only contain ASCII literal characters"

/-- The tokens of the text of an expression inside a string, in brackets,
where the text begins on a line. -/
def innerSource (line : Nat) (expression : List Char) : Source :=
  let (ts, fault) := tokens ('(' :: expression ++ [')'])
  let shift (n : Nat) : Nat := n + line - 1
  { tokens := (ts.map fun t => { t with line := shift t.line }).toArray
    fault := fault.map fun f =>
      { f with
        line := shift f.line
        bracket := f.bracket.map fun (c, n) => (c, shift n) }
    lead := "f-string: " }

-- ============================================================= reading

/-- How a sequence of parts ends: it fits, or it does not; behind a cut no
other choice counts. -/
inductive Fit where
  | fits (next : Nat) (trees : List Tree)
  | fails (final : Bool)

mutual

/-- Reads one part at a place: where it ends, and its tree. All functions
take a bound on their depth first, and then whether late choices count. -/
def readPart (s : Source) (late : Bool) :
    Nat → Peg → Nat → Run (Option (Nat × Tree))
  | 0, _, _ => return none
  | fuel + 1, p, place => do
    let taken (fit : Token → Bool) : Run (Option (Nat × Tree)) := do
      match ← s.token? place with
      | some t => return if fit t then some (place + 1, .token t) else none
      | none => return none
    match p with
    | .mark text => taken (·.isMark text)
    | .sort sort => taken (·.sort == sort)
    | .name => taken fun t => t.sort == .name && !keywords.contains t.text
    | .softKeyword =>
      taken fun t => t.sort == .name && seemsSoftKeyword t.text
    | .rule r => readRule s late fuel r place
    | .seq parts =>
      match ← readAll s late fuel parts place with
      | .fits next trees => return some (next, .group trees)
      | .fails _ => return none
    | .oneOf choices => readFirst s late fuel choices place
    | .opt q =>
      match ← readPart s late fuel q place with
      | some (next, t) => return some (next, .group [t])
      | none => return some (place, .absent)
    | .many q =>
      let (next, trees) ← readMany s late fuel q place
      return some (next, .group trees)
    | .some q =>
      match ← readPart s late fuel q place with
      | some (next, t) =>
        let (next, trees) ← readMany s late fuel q next
        return some (next, .group (t :: trees))
      | none => return none
    | .gather between q =>
      match ← readPart s late fuel q place with
      | some (next, t) =>
        let (next, groups) ←
          readMany s late fuel (.seq [.mark between, q]) next
        return some (next, .group
          (t :: groups.flatMap fun g => g.parts.drop 1))
      | none => return none
    | .demand text =>
      match ← s.token? place with
      | some t =>
        if t.isMark text then return some (place + 1, .token t)
        else s.blame ⟨s!"expected '{text}'", t.line⟩
      | none => return none
    | .ahead _ | .notAhead _ | .cut => return some (place, .absent)
termination_by structural fuel => fuel

/-- Reads parts, one behind the other. -/
def readAll (s : Source) (late : Bool) :
    Nat → List Peg → Nat → Run Fit
  | 0, _, _ => return .fails false
  | _, [], place => return .fits place []
  | fuel + 1, p :: rest, place => do
    match p with
    | .cut =>
      match ← readAll s late fuel rest place with
      | .fails _ => return .fails true
      | fit => return fit
    | .ahead q =>
      match ← readPart s late fuel q place with
      | some _ => readAll s late fuel rest place
      | none => return .fails false
    | .notAhead q =>
      match ← readPart s late fuel q place with
      | some _ => return .fails false
      | none => readAll s late fuel rest place
    | p =>
      match ← readPart s late fuel p place with
      | some (next, t) =>
        match ← readAll s late fuel rest next with
        | .fits next trees => return .fits next (t :: trees)
        | fails => return fails
      | none => return .fails false
termination_by structural fuel => fuel

/-- Reads the first part that fits. -/
def readFirst (s : Source) (late : Bool) :
    Nat → List Peg → Nat → Run (Option (Nat × Tree))
  | 0, _, _ => return none
  | _, [], _ => return none
  | fuel + 1, p :: rest, place => do
    match ← readPart s late fuel p place with
    | some found => return some found
    | none => readFirst s late fuel rest place
termination_by structural fuel => fuel

/-- Reads a part as often as it fits. -/
def readMany (s : Source) (late : Bool) :
    Nat → Peg → Nat → Run (Nat × List Tree)
  | 0, _, place => return (place, [])
  | fuel + 1, p, place => do
    match ← readPart s late fuel p place with
    | some (next, t) =>
      let (next, trees) ← readMany s late fuel p next
      return (next, t :: trees)
    | none => return (place, [])
termination_by structural fuel => fuel

/-- Reads by a rule, unless its result at the place is known. -/
def readRule (s : Source) (late : Bool) :
    Nat → Rule → Nat → Run (Option (Nat × Tree))
  | 0, _, _ => return none
  | fuel + 1, r, place => do
    let body := r.body
    if body.remembered then
      match ← Source.remembered r place with
      | some found => return found
      | none =>
        let found ← readChoices s late fuel body.choices place
        Source.remember r place found
        return found
    else if body.calm then readChoices s false fuel body.choices place
    else readChoices s late fuel body.choices place
termination_by structural fuel => fuel

/-- Reads by the first choice that fits. -/
def readChoices (s : Source) (late : Bool) :
    Nat → List Choice → Nat → Run (Option (Nat × Tree))
  | 0, _, _ => return none
  | _, [], _ => return none
  | fuel + 1, c :: rest, place => do
    if c.late && !late then readChoices s late fuel rest place
    else
      match ← readAll s late fuel c.parts place with
      | .fails true => return none
      | .fails false => readChoices s late fuel rest place
      | .fits next trees =>
        let sight : Sight :=
          ⟨s.lastLine (← get),
           ((s.tokens[next - 1]?).map (·.depth)).getD 0⟩
        let second := trees.getD 1 .absent
        match c.make with
        | .group => return some (next, .group trees)
        | .part i => return some (next, trees.getD i .absent)
        | .node kind => return some (next, .node kind trees)
        | .chain kind =>
          return some (next,
            Tree.chain kind (trees.headD .absent) second.parts)
        | .trail =>
          return some (next,
            Tree.trail (trees.headD .absent) second.parts)
        | .checked wrong =>
          match wrong sight trees with
          | some fault => s.blame fault
          | none => return some (next, .node .number trees)
        | .refuse wrong =>
          match wrong sight trees with
          | some fault => s.blame fault
          | none => return none
        | .strings =>
          let strings := Tree.flatAll trees
          let values ← readStrings s late fuel none strings
          match values with
          | some values => return some (next, .node .joined (strings ++ values))
          | none => return some (next, .node .strings strings)
termination_by structural fuel => fuel

/-- Checks string tokens that stand side by side, and reads the expressions
inside of them; there is an answer if one of them is a formatted string.
`octets` says what the tokens in front are. -/
def readStrings (s : Source) (late : Bool) :
    Nat → Option Bool → List Tree → Run (Option (List Tree))
  | 0, _, _ => return none
  | _, _, [] => return none
  | fuel + 1, octets, t :: rest => do
    let parts := StringParts.ofToken t.text.toList
    if parts.octets && parts.body.any (0x80 ≤ ·.toNat) then
      s.blame ⟨octetsOnly, t.line⟩
    if !parts.formatted then
      match parts.value with
      | .error message => s.blameHere message
      | .ok _ => pure ()
    if octets == some (!parts.octets) then s.blameHere mixedStrings
    let here ←
      if parts.formatted then
        let found := (pieces parts.raw (parts.body.length + 1) 0 0
          parts.body).1
        let values ← readPieces s late fuel parts.raw t.line found
        pure (some values)
      else pure none
    let behind ← readStrings s late fuel (some parts.octets) rest
    match here, behind with
    | some a, some b => return some (a ++ b)
    | some a, none => return some a
    | none, b => return b
termination_by structural fuel => fuel

/-- Checks the pieces of a formatted string that begins on a line, and reads
the expressions in them. -/
def readPieces (s : Source) (late : Bool) :
    Nat → Bool → Nat → List Piece → Run (List Tree)
  | 0, _, _, _ => return []
  | _, _, _, [] => return []
  | fuel + 1, raw, line, p :: rest => do
    match p with
    | .fault message => s.blameHere message
    | .text body =>
      if !raw then
        match unescapeText body.length 0 body with
        | .error message => s.blameHere message
        | .ok _ => pure ()
      readPieces s late fuel raw line rest
    | .value breaks expression format =>
      match readSource fuel (innerSource (line + breaks) expression)
          (.expression .starExpressions) with
      | .error fault => throw (.grammar fault (s.lastLine (← get)))
      | .ok t =>
        let inner ← readPieces s late fuel raw line format
        let behind ← readPieces s late fuel raw line rest
        return .node .part [t, .node .joined inner] :: behind
termination_by structural fuel => fuel

/-- Reads a source by a rule, and says what is wrong if it does not fit. -/
def readSource : Nat → Source → Rule → Except SyntaxFault Tree
  | 0, _, _ => .error ⟨"invalid syntax", 1⟩
  | fuel + 1, s, r =>
    match (readRule s false fuel r 0).run s.start with
    | .error stop => .error (s.verdict stop)
    | .ok (some (_, t), _) => .ok t
    | .ok (none, first) =>
      match (readRule s true fuel r 0).run (s.again first) with
      | .error stop => .error (s.verdict stop)
      | .ok (_, second) => .error (s.unknownFault first second)
termination_by structural fuel => fuel

end

/-- Reads a program text. The bound on the depth is beyond what the rules
can reach: a chain of rules that take nothing is short. -/
def read (text : List Char) : Except SyntaxFault Tree :=
  let (ts, fault) := tokens text
  readSource (300 * (text.length + 10)) ⟨ts.toArray, fault, ""⟩
    (.statement .file)

end Toolsmith.Script
