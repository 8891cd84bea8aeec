/-
The nodes of a YAML document. `Node.ofTokens` reads the node of the one
document that a token list may hold, by recursive descent. An alias stands
for a copy of the node it names; inside that very node it is a `loop`.
-/
import Toolsmith.Yaml.Resolve
import Toolsmith.Yaml.Token

namespace Toolsmith.Yaml

/-- A node: a scalar, a sequence or a mapping under the kind of its tag, or
a reference to a collection from inside it. Nodes are numbered in the order
in which they begin; a copy keeps the number. -/
inductive Node where
  | scalar (number : Nat) (kind : Kind) (text : List Char)
  | sequence (number : Nat) (kind : Kind) (items : List Node)
  | mapping (number : Nat) (kind : Kind) (entries : List (Node × Node))
  | loop (number : Nat) (mapping : Bool)
  deriving Repr, Inhabited

/-- The kind of a node's tag. -/
def Node.kind : Node → Kind
  | scalar _ k _ => k
  | sequence _ k _ => k
  | mapping _ k _ => k
  | loop _ isMapping => if isMapping then .map else .seq

/-- What an anchor names: a finished node, or a collection that is still
being read. -/
inductive Anchored where
  | node (n : Node)
  | unfinished (number : Nat) (mapping : Bool)

/-- How many collections may stand in one another. -/
def depthLimit : Nat := 484

/-- A reader of nodes between two tokens, with the number of the next node
and how many collections are open. Behind the last token the text is at
fault. -/
structure NodeReader where
  tokens : List Token
  next : Nat
  depth : Nat
  fault : Fault
  handles : List (List Char × List Char)
  anchors : List (List Char × Anchored)

/-- Steps of a reader of nodes. -/
abbrev Reading := StateT NodeReader (Except Fault)

namespace Reading

/-- The next token. -/
def peek : Reading Token := do
  let s ← get
  match s.tokens with
  | t :: _ => return t
  | [] => throw s.fault

/-- Moves on to the next token. -/
def skip : Reading Unit :=
  modify fun s => { s with tokens := s.tokens.drop 1 }

/-- Moves on if the next token is `t`, and says so. -/
def accept (t : Token) : Reading Bool := do
  if (← peek) == t then
    skip
    return true
  else return false

/-- The next token is one of the given ones. -/
def atAny (ts : List Token) : Reading Bool := return ts.contains (← peek)

-- ========================================================== properties

/-- The anchor and the tag in front of a node. -/
structure Properties where
  anchor : Option (List Char)
  tag : Option (Option (List Char) × List Char)

/-- Reads the anchor and the tag of a node, in either order. -/
def properties : Reading Properties := do
  match ← peek with
  | .anchor name =>
    skip
    match ← peek with
    | .tag handle suffix => skip; return ⟨some name, some (handle, suffix)⟩
    | _ => return ⟨some name, none⟩
  | .tag handle suffix =>
    skip
    match ← peek with
    | .anchor name => skip; return ⟨some name, some (handle, suffix)⟩
    | _ => return ⟨none, some (handle, suffix)⟩
  | _ => return ⟨none, none⟩

/-- The whole tag of a handle and a suffix. -/
def wholeTag (p : Properties) : Reading (Option (List Char)) := do
  match p.tag with
  | none => return none
  | some (none, suffix) => return some suffix
  | some (some handle, suffix) =>
    match (← get).handles.find? (·.1 == handle) with
    | some (_, expansion) => return some (expansion ++ suffix)
    | none => throw .grammar

/-- The tag leaves the kind of the node to its content. -/
def isOpenTag (tag : Option (List Char)) : Bool :=
  tag.isNone || tag == some ['!']

/-- The kind of a scalar. Without a tag a plain one shows its kind and
another one is text; the tag `!` alone lets every scalar show it. -/
def scalarKind (tag : Option (List Char)) (text : List Char)
    (plain : Bool) : Kind :=
  match tag with
  | none => if plain then .ofPlain text else .str
  | some t => if t == ['!'] then .ofPlain text else .ofTag t

/-- The kind of a collection that is `usual` without a tag. -/
def collectionKind (tag : Option (List Char)) (usual : Kind) : Kind :=
  if isOpenTag tag then usual else Kind.ofTag (tag.getD [])

/-- A new anchor may not repeat one. -/
def checkAnchor (anchor : Option (List Char)) : Reading Unit := do
  match anchor with
  | some name =>
    if (← get).anchors.any (·.1 == name) then throw .reference
  | none => return

/-- Sets what an anchor names. -/
def setAnchor (anchor : Option (List Char)) (a : Anchored) : Reading Unit :=
  match anchor with
  | some name => modify fun s => { s with anchors := (name, a) :: s.anchors }
  | none => return

/-- The node that an alias stands for. -/
def aliased (name : List Char) : Reading Node := do
  match (← get).anchors.find? (·.1 == name) with
  | some (_, .node n) => return n
  | some (_, .unfinished number mapping) => return .loop number mapping
  | none => throw .reference

/-- Reads what is inside a collection. -/
def inside (body : Reading Node) : Reading Node := do
  let depth := (← get).depth
  if depthLimit ≤ depth then throw .tooDeep
  modify fun s => { s with depth := depth + 1 }
  let n ← body
  modify fun s => { s with depth := depth }
  return n

/-- The node of an absent value. -/
def emptyNode : Node := .scalar 0 .null []

/-- The number for a node that begins. -/
def number : Reading Nat := do
  let n := (← get).next
  modify fun s => { s with next := n + 1 }
  return n

-- =============================================================== nodes

mutual

/-- Reads a node. A block may open only where `inBlock` says so, and
`dashes` lets a sequence stand without indentation of its own. -/
def node : Nat → Bool → Bool → Reading Node
  | 0, _, _ => throw .grammar
  | fuel + 1, inBlock, dashes => do
    match ← peek with
    | .alias name => skip; aliased name
    | _ =>
      let p ← properties
      let tag ← wholeTag p
      let t ← peek
      let number ← number
      let collect (mapping : Bool) (body : Reading Node) : Reading Node := do
        checkAnchor p.anchor
        setAnchor p.anchor (.unfinished number mapping)
        let n ← inside body
        setAnchor p.anchor (.node n)
        return n
      let leaf (n : Node) : Reading Node := do
        checkAnchor p.anchor
        setAnchor p.anchor (.node n)
        return n
      let asSequence (items : Reading (List Node)) : Reading Node :=
        collect false do
          return .sequence number (collectionKind tag .seq) (← items)
      let asMapping (entries : Reading (List (Node × Node))) :
          Reading Node :=
        collect true do
          return .mapping number (collectionKind tag .map) (← entries)
      match t with
      | .item =>
        if dashes then asSequence (dashItems fuel)
        else if p.anchor.isSome || tag.isSome then
          leaf (.scalar number (scalarKind tag [] true) [])
        else throw .grammar
      | .scalar text plain =>
        skip
        leaf (.scalar number (scalarKind tag text plain) text)
      | .openSequence => skip; asSequence (bracketItems fuel true)
      | .openMapping => skip; asMapping (bracketEntries fuel true)
      | .blockSequence =>
        if inBlock then
          skip
          asSequence (blockItems fuel)
        else if p.anchor.isSome || tag.isSome then
          leaf (.scalar number (scalarKind tag [] true) [])
        else throw .grammar
      | .blockMapping =>
        if inBlock then
          skip
          asMapping (blockEntries fuel)
        else if p.anchor.isSome || tag.isSome then
          leaf (.scalar number (scalarKind tag [] true) [])
        else throw .grammar
      | _ =>
        if p.anchor.isSome || tag.isSome then
          leaf (.scalar number (scalarKind tag [] true) [])
        else throw .grammar

/-- Reads a node unless one of the given tokens shows that it is absent. -/
def optional : Nat → Bool → Bool → List Token → Reading Node
  | 0, _, _, _ => throw .grammar
  | fuel + 1, inBlock, dashes, absent => do
    if ← atAny absent then return emptyNode
    else node fuel inBlock dashes

/-- Reads the items of a block sequence and its end. -/
def blockItems : Nat → Reading (List Node)
  | 0 => throw .grammar
  | fuel + 1 => do
    if ← accept .item then
      let n ← optional fuel true false [.item, .blockEnd]
      return n :: (← blockItems fuel)
    else if ← accept .blockEnd then return []
    else throw .grammar

/-- Reads the items of a sequence without indentation of its own. -/
def dashItems : Nat → Reading (List Node)
  | 0 => throw .grammar
  | fuel + 1 => do
    if ← accept .item then
      let n ← optional fuel true false [.item, .key, .value, .blockEnd]
      return n :: (← dashItems fuel)
    else return []

/-- Reads the entries of a block mapping and its end. -/
def blockEntries : Nat → Reading (List (Node × Node))
  | 0 => throw .grammar
  | fuel + 1 => do
    if ← accept .key then
      let k ← optional fuel true true [.key, .value, .blockEnd]
      let v ←
        if ← accept .value then
          optional fuel true true [.key, .value, .blockEnd]
        else pure emptyNode
      return (k, v) :: (← blockEntries fuel)
    else if ← accept .blockEnd then return []
    else throw .grammar

/-- Reads the items between square brackets, behind the opening one if
`first`. A key with a value is a mapping of its own. -/
def bracketItems : Nat → Bool → Reading (List Node)
  | 0, _ => throw .grammar
  | fuel + 1, first => do
    if ← accept .closeSequence then return []
    else
      if !first then
        if !(← accept .comma) then throw .grammar
      if ← accept .key then
        let pair ← inside do
          let k ← optional fuel false false [.value, .comma, .closeSequence]
          let v ←
            if ← accept .value then
              optional fuel false false [.comma, .closeSequence]
            else pure emptyNode
          return .mapping (← number) .map [(k, v)]
        return pair :: (← bracketItems fuel false)
      else if ← accept .closeSequence then return []
      else
        let n ← node fuel false false
        return n :: (← bracketItems fuel false)

/-- Reads the entries between braces, behind the opening one if `first`. -/
def bracketEntries : Nat → Bool → Reading (List (Node × Node))
  | 0, _ => throw .grammar
  | fuel + 1, first => do
    if ← accept .closeMapping then return []
    else
      if !first then
        if !(← accept .comma) then throw .grammar
      if ← accept .key then
        let k ← optional fuel false false [.value, .comma, .closeMapping]
        let v ←
          if ← accept .value then
            optional fuel false false [.comma, .closeMapping]
          else pure emptyNode
        return (k, v) :: (← bracketEntries fuel false)
      else if ← accept .closeMapping then return []
      else
        let n ← node fuel false false
        return (n, emptyNode) :: (← bracketEntries fuel false)

end

-- =========================================================== documents

/-- Reads the directives of a document. A version has to be the first one
and is given once, and a handle is declared once; the usual handles stand
for themselves unless they are declared. -/
def directives : Nat → Bool → List (List Char × List Char) → Reading Unit
  | 0, _, _ => throw .grammar
  | fuel + 1, versioned, handles => do
    match ← peek with
    | .directive d =>
      skip
      match d with
      | .version major =>
        if versioned || major != 1 then throw .grammar
        directives fuel true handles
      | .tagHandle handle expansion =>
        if handles.any (·.1 == handle) then throw .grammar
        directives fuel versioned (handles ++ [(handle, expansion)])
      | .other => directives fuel versioned handles
    | _ =>
      modify fun s =>
        { s with
          handles := handles ++ [(['!'], ['!']), (['!', '!'], kindSpace)] }

/-- Skips the marks that end a document. -/
def skipEnds : Nat → Reading Unit
  | 0 => return
  | fuel + 1 => do
    if ← accept .documentEnd then skipEnds fuel

/-- The next token belongs to no node. -/
def atBoundary : Reading Bool := do
  match ← peek with
  | .directive _ | .documentStart | .documentEnd | .finish => return true
  | _ => return false

/-- Reads directives and the mark that begins a document, unless the text
ends. The flag says that a document begins. -/
def documentHead (fuel : Nat) : Reading Bool := do
  skipEnds fuel
  if (← peek) == .finish then return false
  else
    directives fuel false []
    if ← accept .documentStart then return true else throw .grammar

/-- Reads a document that begins without a mark. -/
def bareDocument (fuel : Nat) : Reading (Option Node) := do
  directives fuel false []
  return some (← node fuel true false)

/-- Reads a document that a mark begins, if the text has one. -/
def markedDocument (fuel : Nat) : Reading (Option Node) := do
  if ← documentHead fuel then
    if ← atBoundary then return some emptyNode
    else return some (← node fuel true false)
  else return none

/-- Reads the one document of a text; there may be none. -/
def document (fuel : Nat) : Reading (Option Node) := do
  let bare := !(← atBoundary) || (← peek) == .documentEnd
  let content ← if bare then bareDocument fuel else markedDocument fuel
  if content.isSome then
    let _ ← accept .documentEnd
    if ← documentHead fuel then throw .reference
  return content

end Reading

/-- The node of the document that the tokens of a text hold. -/
def Node.ofTokens (tokens : List Token) (fault : Option Fault) :
    Except Fault (Option Node) := do
  let reader : NodeReader := ⟨tokens, 1, 0, fault.getD .grammar, [], []⟩
  let (node, _) ← (Reading.document (8 * tokens.length + 8)).run reader
  return node

end Toolsmith.Yaml
