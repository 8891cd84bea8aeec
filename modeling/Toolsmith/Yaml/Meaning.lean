/-
The values of nodes. A collection is filled only after the collections
around it, so of several faults the one that is least deep counts, and the
leftmost of those.
-/
import Toolsmith.Encoding.Base64
import Toolsmith.Number.Read
import Toolsmith.Value.Web
import Toolsmith.Yaml.Node

namespace Toolsmith.Yaml

open Text

-- ============================================================= numbers

/-- A text without underscores. -/
def withoutUnderscores (s : List Char) : List Char := s.filter (· != '_')

/-- An integer in a base other than ten; the mark of the base may stand in
front of its digits. -/
def markedInt? (base : Nat) (mark : Char) (s : List Char) : Option Int :=
  let (negative, body) := Number.signed (stripOf Number.isPadding s)
  let digits :=
    match body with
    | '0' :: m :: rest => if m.toLower == mark then rest else body
    | _ => body
  let opens := (digits.head?.bind (Number.digitBelow? base)).isSome
  if opens then
    match Number.int? base digits with
    | .ok n => some (if negative then -n else n)
    | .error _ => none
  else none

/-- A decimal integer. -/
def decimalInt? (s : List Char) : Option Int :=
  match Number.int? 10 s with
  | .ok n => some n
  | .error _ => none

/-- The value of parts that each count sixty times the next one. -/
def sexagesimal (parts : List Int) : Int :=
  parts.foldl (fun n part => n * 60 + part) 0

/-- The value of an integer scalar. -/
def intValue (text : List Char) : Except ScalarFault Value :=
  let s := withoutUnderscores text
  if s.isEmpty then .error .empty
  else
    let negative := s.head? == some '-'
    let body := if negative || s.head? == some '+' then s.drop 1 else s
    let found : Option Int :=
      match body with
      | '0' :: 'b' :: rest => markedInt? 2 'b' rest
      | '0' :: 'x' :: rest => markedInt? 16 'x' rest
      | ['0'] => some 0
      | '0' :: _ => markedInt? 8 'o' body
      | _ =>
        if body.contains ':' then
          ((splitAt ':' body).mapM decimalInt?).map sexagesimal
        else decimalInt? body
    if body.isEmpty then .error .empty
    else
      match found with
      | some n => .ok (.int (if negative then -n else n))
      | none => .error .noValue

/-- The sum of parts that each count sixty times the next one; the last part
is added first. The unit of every part has to be near a double. -/
def sexagesimalSum (parts : List Binary64) : Except ScalarFault Binary64 :=
  let step (state : Binary64 × Nat) (part : Binary64) :
      Except ScalarFault (Binary64 × Nat) :=
    match Binary64.ofInt state.2 with
    | .infinity _ => .error .huge
    | unit => .ok (state.1.add (part.mul unit), state.2 * 60)
  (parts.reverse.foldlM step (Binary64.zero false, 1)).map (·.1)

/-- The value of a double scalar. -/
def floatValue (text : List Char) : Except ScalarFault Value :=
  let s := lower (withoutUnderscores text)
  if s.isEmpty then .error .empty
  else
    let negative := s.head? == some '-'
    let body := if negative || s.head? == some '+' then s.drop 1 else s
    let found : Except ScalarFault Binary64 :=
      if body == ".inf".toList then .ok (.infinity false)
      else if body == ".nan".toList then .ok .nan
      else if body.contains ':' then
        match (splitAt ':' body).mapM Number.float? with
        | some parts => sexagesimalSum parts
        | none => .error .noValue
      else
        match Number.float? body with
        | some x => .ok x
        | none => .error .noValue
    found.map fun x => .float (if negative then x.neg else x)

-- ======================================================= days and clocks

/-- The calendar has the day. -/
def isDay (d : Date) : Bool :=
  1 ≤ d.year && 1 ≤ d.month && d.month ≤ 12
    && 1 ≤ d.day && d.day ≤ Moment.daysOfMonth d.year d.month

/-- The number that ASCII digits write. -/
def numberOf (digits : List Char) : Nat :=
  Number.ofDigits 10 (digits.map fun d => d.toNat - 48)

/-- Six digits behind the point as a number; missing ones are zeros. -/
def microseconds (digits : List Char) : Nat :=
  let kept := digits.take 6
  numberOf (kept ++ List.replicate (6 - kept.length) '0')

/-- The seconds that a zone is ahead of universal time. -/
def zoneSeconds : List Char × List Char × List Char → Int
  | (sign, hours, minutes) =>
    let n : Int := numberOf hours * 3600 + numberOf minutes * 60
    if sign == ['-'] then -n else n

/-- The value of a scalar for a day or a moment. -/
def momentValue (text : List Char) : Except ScalarFault Value :=
  match momentText? (withoutFinalBreak text) with
  | none => .error .noMoment
  | some t =>
    let date : Date := ⟨numberOf t.year, numberOf t.month, numberOf t.day⟩
    match t.clock with
    | none => if isDay date then .ok (.date date) else .error .noValue
    | some (hour, minute, second, fraction) =>
      let offset := t.zone.map zoneSeconds
      let moment : Moment :=
        ⟨date, numberOf hour, numberOf minute, numberOf second,
          microseconds fraction, offset⟩
      let inDay := moment.hour < 24 && moment.minute < 60 && moment.second < 60
      let nearby := (offset.map fun o => decide (o.natAbs < 86400)).getD true
      if isDay date && inDay && nearby then .ok (.moment moment)
      else .error .noValue

-- ============================================================= scalars

/-- The truth value of a word. -/
def boolValue (text : List Char) : Except ScalarFault Value :=
  let w := String.ofList (lower text)
  if ["yes", "true", "on"].contains w then .ok (.bool true)
  else if ["no", "false", "off"].contains w then .ok (.bool false)
  else .error .unknownWord

/-- The value of a scalar text under a kind. -/
def scalarValue (kind : Kind) (text : List Char) : Except Fault Value :=
  match kind with
  | .null => .ok .null
  | .bool => (boolValue text).mapError .scalar
  | .int => (intValue text).mapError .scalar
  | .float => (floatValue text).mapError .scalar
  | .timestamp => (momentValue text).mapError .scalar
  | .str => .ok (.text (String.ofList text))
  | .binary =>
    if text.all fun c => c.toNat < 0x80 then
      match Base64.decode? text with
      | some octets => .ok (.bytes octets)
      | none => .error .meaning
    else .error .meaning
  | _ => .error .meaning

mutual

/-- The text of a node that has to be a scalar. A mapping may give it under
its value key. -/
def scalarText? : Node → Option (List Char)
  | .scalar _ _ text => some text
  | .mapping _ _ entries => valueText? entries
  | _ => none

/-- The text under the value key of entries. -/
def valueText? : List (Node × Node) → Option (List Char)
  | [] => none
  | (k, v) :: rest =>
    if k.kind == .value then scalarText? v else valueText? rest

end

-- ========================================================= collections

/-- A value, or a fault with its depth. -/
abbrev Judged (α : Type) := Except (Nat × Fault) α

/-- Two values; of two faults the one that is less deep counts, and the
first one if they are equally deep. -/
def Judged.both {α β : Type} : Judged α → Judged β → Judged (α × β)
  | .ok a, .ok b => .ok (a, b)
  | .error e, .ok _ => .error e
  | .ok _, .error f => .error f
  | .error e, .error f => .error (if f.1 < e.1 then f else e)

/-- All values of a list. -/
def Judged.all {α : Type} : List (Judged α) → Judged (List α)
  | [] => .ok []
  | x :: rest => (x.both (all rest)).map fun (a, more) => a :: more

/-- An entry of a mapping. What is not a number is a key of its own, by the
number of its node, unless its text is the usual one; `owner` is zero for
every other key. -/
structure Entry where
  owner : Nat
  key : Value
  value : Value

/-- The owner of the key that a node is. -/
def ownerOf : Node → Nat
  | .scalar number _ text =>
    let (_, word) := Number.signed (lower (withoutUnderscores text))
    if word == ".nan".toList then 0 else number
  | _ => 0

/-- Two entries have one key. -/
def Entry.sameKey (a b : Entry) : Bool :=
  a.key.sameKey b.key && a.owner == b.owner

/-- Entries with one more: a key that is there already keeps its place and
takes the new value. -/
def Entry.insert (e : Entry) : List Entry → List Entry
  | [] => [e]
  | f :: rest =>
    if f.sameKey e then { f with value := e.value } :: rest
    else f :: e.insert rest

/-- An entry at a depth; its key has to be fit to be one. -/
def judgeEntry (depth : Nat) (node : Node) (k v : Judged Value) :
    Judged Entry :=
  let key : Judged Value := do
    let key ← k
    if key.isKey then return key else throw (depth, .meaning)
  (key.both v).map fun (key, value) =>
    ⟨if key matches .float .nan then ownerOf node else 0, key, value⟩

/-- Entries as they are: those taken over from other mappings, then the
mapping's own ones. -/
structure Entries where
  merged : List (Judged Entry)
  own : List (Judged Entry)

/-- The value of a mapping of a kind, from its judged entries. -/
def mappingValue (kind : Kind) (depth : Nat) (es : Except Fault Entries) :
    Judged Value :=
  match es with
  | .error e => .error (depth, e)
  | .ok es =>
    (Judged.all (es.merged ++ es.own)).map fun entries =>
      let distinct := entries.foldl (fun found e => e.insert found) []
      if kind == .set then .set (distinct.map (·.key))
      else .map (distinct.map fun e => (e.key, e.value))

/-- The kinds of collections; none of them can be a key, whatever it
holds. -/
def collectionKinds : List Kind := [.map, .set, .seq, .omap, .pairs]

mutual

/-- The value of a node below `depth` collections. -/
def meaning (depth : Nat) : Node → Judged Value
  | .scalar _ kind text =>
    if collectionKinds.contains kind then
      .error (depth + 1, .meaning)
    else (scalarValue kind text).mapError (depth, ·)
  | .sequence _ kind items =>
    match kind with
    | .seq => (Judged.all (meanings (depth + 1) items)).map .list
    | .omap | .pairs =>
      (Judged.all (pairMeanings (depth + 1) items)).map .list
    | .map | .set => .error (depth + 1, .meaning)
    | _ => .error (depth, .meaning)
  | .mapping _ kind entries =>
    match kind with
    | .map | .set =>
      mappingValue kind (depth + 1) (entryMeanings (depth + 1) entries)
    | .seq | .omap | .pairs => .error (depth + 1, .meaning)
    | _ =>
      match valueText? entries with
      | some text =>
        if kind == .timestamp then .error (depth, .scalar .noText)
        else (scalarValue kind text).mapError (depth, ·)
      | none => .error (depth, .meaning)
  | .loop number isMapping => .ok (.loop number isMapping)

/-- The values of nodes. -/
def meanings (depth : Nat) : List Node → List (Judged Value)
  | [] => []
  | n :: rest => meaning depth n :: meanings depth rest

/-- The pairs of nodes that have to be mappings with one entry each. -/
def pairMeanings (depth : Nat) : List Node → List (Judged Value)
  | [] => []
  | .mapping _ _ [(k, v)] :: rest =>
    (((meaning depth k).both (meaning depth v)).map fun (a, b) => .pair a b)
      :: pairMeanings depth rest
  | _ :: rest => .error (depth, .meaning) :: pairMeanings depth rest

/-- The entries of a mapping. A merge key takes over the entries of the
mapping or the mappings under it, the last of several first. -/
def entryMeanings (depth : Nat) :
    List (Node × Node) → Except Fault Entries
  | [] => .ok ⟨[], []⟩
  | (k, v) :: rest => do
    if k.kind == .merge then
      let taken ← mergedMeanings depth v
      let more ← entryMeanings depth rest
      return { more with merged := taken ++ more.merged }
    else
      let more ← entryMeanings depth rest
      let key :=
        if k.kind == .value then
          match scalarText? k with
          | some text => .ok (.text (String.ofList text))
          | none => .error (depth, .meaning)
        else if collectionKinds.contains k.kind then
          .error (depth, .meaning)
        else meaning depth k
      let entry := judgeEntry depth k key (meaning depth v)
      return { more with own := entry :: more.own }

/-- The entries that the node under a merge key gives. -/
def mergedMeanings (depth : Nat) :
    Node → Except Fault (List (Judged Entry))
  | .mapping _ _ entries => do
    let es ← entryMeanings depth entries
    return es.merged ++ es.own
  | .sequence _ _ items => mergedLists depth items
  | .loop _ isMapping => if isMapping then .ok [] else .error .meaning
  | .scalar _ _ _ => .error .meaning

/-- The entries that a list of mappings gives, the last mapping first. -/
def mergedLists (depth : Nat) :
    List Node → Except Fault (List (Judged Entry))
  | [] => .ok []
  | .mapping _ _ entries :: rest => do
    let es ← entryMeanings depth entries
    return (← mergedLists depth rest) ++ es.merged ++ es.own
  | .loop _ true :: rest => mergedLists depth rest
  | _ :: _ => .error .meaning

end

-- =============================================== collections in loops

mutual

/-- A loop stands in the node. -/
def holdsLoop : Node → Bool
  | .scalar _ _ _ => false
  | .sequence _ _ items => anyHoldsLoop items
  | .mapping _ _ entries => anyEntryHoldsLoop entries
  | .loop _ _ => true

/-- A loop stands in one of the nodes. -/
def anyHoldsLoop : List Node → Bool
  | [] => false
  | n :: rest => holdsLoop n || anyHoldsLoop rest

/-- A loop stands in one of the entries. -/
def anyEntryHoldsLoop : List (Node × Node) → Bool
  | [] => false
  | (k, v) :: rest => holdsLoop k || holdsLoop v || anyEntryHoldsLoop rest

end

/-- The node becomes a collection that holds loops. One with the tag of a
scalar does not become a collection at all. -/
def isHolder : Node → Bool
  | .sequence _ kind items =>
    collectionKinds.contains kind && anyHoldsLoop items
  | .mapping _ kind entries =>
    collectionKinds.contains kind && anyEntryHoldsLoop entries
  | _ => false

mutual

/-- The collections in a node that hold loops, each with its number. -/
def loopHolders : Node → List (Nat × Node)
  | .scalar _ _ _ => []
  | .sequence number kind items =>
    let inside := loopHoldersOf items
    if isHolder (.sequence number kind items) then
      (number, .sequence number kind items) :: inside
    else inside
  | .mapping number kind entries =>
    let inside := loopHoldersOfEntries entries
    if isHolder (.mapping number kind entries) then
      (number, .mapping number kind entries) :: inside
    else inside
  | .loop _ _ => []

/-- `loopHolders` for all nodes of a list. -/
def loopHoldersOf : List Node → List (Nat × Node)
  | [] => []
  | n :: rest => loopHolders n ++ loopHoldersOf rest

/-- `loopHolders` for the values of entries. -/
def loopHoldersOfEntries : List (Node × Node) → List (Nat × Node)
  | [] => []
  | (_, v) :: rest => loopHolders v ++ loopHoldersOfEntries rest

end

/-- A node as part of a web: a collection that holds loops is one itself. -/
def asLoop (n : Node) : Node :=
  match n with
  | .sequence number _ _ => if isHolder n then .loop number false else n
  | .mapping number _ _ => if isHolder n then .loop number true else n
  | n => n

mutual

/-- A node under a merge key as part of a web. The mappings whose entries
are taken over stay as they are, and a loop is replaced by the mapping that
it stands for, without what this one takes over itself. -/
def asMerged (holders : List (Nat × Node)) : Node → Node
  | .loop number isMapping =>
    match holders.lookup number with
    | some (.mapping _ kind entries) =>
      let own := entries.filter fun (k, _) => k.kind != .merge
      .mapping number kind (own.map fun (k, v) => (k, asLoop v))
    | _ => .loop number isMapping
  | .mapping number kind entries =>
    .mapping number kind (asMergedEntries holders entries)
  | .sequence number kind items =>
    .sequence number kind (asMergedItems holders items)
  | .scalar number kind text => .scalar number kind text

/-- `asMerged` for every node of a list. -/
def asMergedItems (holders : List (Nat × Node)) : List Node → List Node
  | [] => []
  | n :: rest => asMerged holders n :: asMergedItems holders rest

/-- Entries as parts of a web. -/
def asMergedEntries (holders : List (Nat × Node)) :
    List (Node × Node) → List (Node × Node)
  | [] => []
  | (k, v) :: rest =>
    (k, if k.kind == .merge then asMerged holders v else asLoop v)
      :: asMergedEntries holders rest

end

/-- A collection with its members as parts of a web. -/
def asKnot (holders : List (Nat × Node)) (n : Node) : Node :=
  match n with
  | .mapping _ _ _ => asMerged holders n
  | .sequence number kind items =>
    let item (n : Node) : Node :=
      match n with
      | .mapping number _ entries =>
        if kind == .seq then asLoop n
        else .mapping number .map (entries.map fun (k, v) => (k, asLoop v))
      | n => asLoop n
    .sequence number kind (items.map item)
  | n => n

/-- The value of a node that is known to have one. -/
def knownMeaning (n : Node) : Value :=
  match meaning 0 n with
  | .ok v => v
  | .error _ => .null

/-- The web of a node. A mapping that becomes a set is no mapping any more,
which its loops have to say. -/
def web (n : Node) : Except Fault Web :=
  match meaning 0 n with
  | .error (_, fault) => .error fault
  | .ok v =>
    let holders := loopHolders n
    if holders.isEmpty then .ok (Web.ofValue v).settled
    else
      let knots := holders.filterMap fun (number, holder) =>
        (Knot.of? (knownMeaning (asKnot holders holder))).map (number, ·)
      .ok (Web.mk knots (knownMeaning (asLoop n))).settled

-- ============================================================= reading

/-- The web of a YAML text; a text without a document is `null`. -/
def readWeb (s : List Char) : Except Fault Web :=
  if s.all isAllowed then do
    let (tokens, fault) := tokens s
    match ← Node.ofTokens tokens fault with
    | none => return .ofValue .null
    | some node => web node
  else .error .character

/-- The value of a YAML text. -/
def read (s : List Char) : Except Fault Value := (readWeb s).map Web.value

end Toolsmith.Yaml
