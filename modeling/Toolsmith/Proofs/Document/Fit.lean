/-
What a document has to be for its server. The structures here say it part by
part, in the words of the document: a path is a text, whatever is shown in
running text can be written, parameters are listed in something that has
items, their names and locations are fit for keys, and a description is a
text. Beside each step of the reading stands that it needs just this, so a
document that fits has a server, and one that does not ends in a mishap.
-/
import Toolsmith.Document.Server
import Toolsmith.Proofs.Document.Catalog
import Toolsmith.Proofs.Needs

namespace Toolsmith

-- =============================================================== values

namespace Value

/-- A text, or octets that are read as one. -/
inductive IsText : Value → Prop where
  | text (s : String) : IsText (.text s)
  | bytes {octets : List UInt8} {s : List Char}
      (h : Utf8.decode? octets = some s) : IsText (.bytes octets)

/-- The value can be read item by item. -/
def hasItems : Value → Bool
  | list _ | map _ | set _ | text _ | bytes _ | pair _ _ => true
  | _ => false

/-- Something stands at the start of the value, or under the key zero. -/
def hasFirst : Value → Bool
  | list items => !items.isEmpty
  | bytes octets => !octets.isEmpty
  | text s => !s.toList.isEmpty
  | map entries => (find? (.int 0) entries).isSome
  | pair _ _ => true
  | _ => false

/-- The first value that is there decides; behind all stands a text. -/
theorem isText_orElse {v fallback : Value} (h : fallback.IsText) :
    (v.orElse fallback).IsText ↔ (v.isTruthy = true → v.IsText) := by
  unfold orElse
  split
  next hv => exact ⟨fun ht _ => ht, fun ht => ht hv⟩
  next hv => exact ⟨fun _ ht => absurd ht hv, fun _ => h⟩

theorem orElse_assoc (u v w : Value) :
    u.orElse (v.orElse w) = (u.orElse v).orElse w := by
  by_cases hu : u.isTruthy = true
  · simp only [orElse, if_pos hu]
  · simp only [orElse, if_neg hu]

/-- What the check of a text accepts. -/
theorem exists_text_iff {v : Value} :
    (∃ s, Shape.text v = .ok s) ↔ v.IsText := by
  constructor
  · rintro ⟨s, h⟩
    unfold Shape.text at h
    split at h
    · exact .text _
    · split at h
      next hs => exact .bytes hs
      next => cases h
    · cases h
  · rintro (⟨s⟩ | ⟨hs⟩)
    · exact ⟨s, rfl⟩
    · unfold Shape.text
      dsimp only
      rw [hs]
      exact ⟨_, rfl⟩

/-- A text that may be left out is there as `null` or as a text. -/
theorem exists_optional_text_iff {v : Value} :
    (∃ s, Shape.optional Shape.text v = .ok s) ↔ v = .null ∨ v.IsText := by
  cases v with
  | null => exact ⟨fun _ => Or.inl rfl, fun _ => ⟨none, rfl⟩⟩
  | _ =>
      refine (Shape.Checked.exists_map_eq_ok.trans exists_text_iff).trans
        ⟨Or.inr, ?_⟩
      rintro (h | h)
      · cases h
      · exact h

end Value

/-- A checked text of a record. -/
theorem needs_text (record step : String) (v : Value) :
    Needs (Failure.ofChecked record ((Shape.text v).under step)) v.IsText := by
  refine Needs.ofChecked ?_
  simp only [Shape.Checked.under_eq_ok]
  exact Value.exists_text_iff

namespace Document

variable {d : Document}

-- ================================================================= words

/-- The part can be written in running text: none of its integers is too
long. -/
def Displays (d : Document) (v : Value) : Prop := (d.whole v).isWritable = true

/-- Where a declaration lists parameters: what stands under the name, or an
empty list if that counts as missing. -/
def listing (d : Document) (v : Value) : Value :=
  d.look ((d.fieldOf v "parameters").orElse (.list []))

/-- The parameters that are listed, with what references among them lead
to. -/
def listed (d : Document) (v : Value) : List Value :=
  match itemsOf (d.listing v) with
  | .ok items => items.filterMap d.inlined
  | .error _ => []

/-- The name and the location of a declared parameter. -/
def named (d : Document) (p : Value) : Value × Value :=
  (d.fieldOf p "name", d.fieldOf p "in")

/-- Both are fit for keys. -/
def HasKeys (d : Document) (p : Value) : Prop :=
  (d.named p).1.isKey = true ∧ (d.named p).2.isKey = true

/-- One of the operation's own parameters has the name and the location. -/
def isOverridden (d : Document) (own : List Value) (p : Value) : Bool :=
  p.isMap && (own.filter Value.isMap).any fun q =>
    sameIdentity (d.named p) (d.named q)

/-- The declarations that stand for an operation: those of the path that are
not overridden, and its own. -/
def standing (d : Document) (op : Operation) : List Value :=
  (d.listed op.item).filter (fun p => !d.isOverridden (d.listed op.body) p)
    ++ d.listed op.body

/-- A declaration that makes a parameter: it has a name and a schema, a place
among the inputs of a tool, and does not repeat a token of the path. -/
structure Declares (d : Document) (tokens : List String) (p : Value) :
    Prop where
  isMap : p.isMap = true
  name : (d.fieldOf p "name").isTruthy = true
  schema : (d.fieldOf p "schema").isTruthy = true
  location : ∃ location, declaredLocation? (d.fieldOf p "in") = some location
    ∧ ¬ (location = .path ∧ ∃ token ∈ tokens,
      d.fieldOf p "name" = .text token)

/-- A declaration that is fit for a parameter: its name and its description
are texts, and the type of its schema can be written. -/
structure FitsParam (d : Document) (p : Value) : Prop where
  type : (d.fieldOf p "schema").isMap = true →
    (d.fieldOf (d.fieldOf p "schema") "type").isTruthy = true →
      d.Displays (d.fieldOf (d.fieldOf p "schema") "type")
  name : (d.fieldOf p "name").IsText
  description : d.fieldOf p "description" = .null
    ∨ (d.fieldOf p "description").IsText

/-- What an operation has to be for everything of its endpoint but the
description. -/
structure FitsDraft (d : Document) (op : Operation) : Prop where
  path : ∃ path, op.path = .text path
  name : (d.fieldOf op.body "operationId").isTruthy = true →
    d.Displays (d.fieldOf op.body "operationId")
  listings : (d.listing op.item).hasItems = true
    ∧ (d.listing op.body).hasItems = true
  keys : ∀ p ∈ d.listed op.item ++ d.listed op.body, p.isMap = true →
    d.HasKeys p
  parameters : ∀ path, op.path = .text path →
    ∀ p ∈ d.standing op, d.Declares (distinctTokens path) p → d.FitsParam p

/-- The description that an operation gives: its summary, or what it has under
that name. -/
def described (d : Document) (op : Operation) : Value :=
  (d.fieldOf op.body "summary").orElse (d.fieldOf op.body "description")

/-- An operation that is fit for an endpoint. -/
structure FitsEndpoint (d : Document) (op : Operation) : Prop
    extends d.FitsDraft op where
  description : (d.described op).isTruthy = true → (d.described op).IsText

/-- The schemes of a document, or the usual one. -/
def schemes (d : Document) : Value :=
  d.look ((d.field "schemes").orElse (.list [.text "https"]))

/-- The parts of a base URL that are joined where a host is given. -/
structure FitsHost (d : Document) : Prop where
  scheme : d.schemes.hasFirst = true
    ∧ ∀ scheme, first d.schemes = .ok scheme → d.Displays scheme
  host : d.Displays (d.field "host")
  basePath : d.Displays ((Value.entry? "basePath" d.entries).getD (.text ""))

/-- The base URL can be written: the one that is listed, or the parts of one
if there is a host. -/
def FitsUrl (d : Document) : Prop :=
  match d.listedUrl? with
  | some url => d.Displays url
  | none => (d.field "host").isTruthy = true → d.FitsHost

/-- The facts about the API are fit for a server. -/
structure FitsServer (d : Document) : Prop where
  title : d.Displays (d.fieldOf (d.field "info") "title")
  version : (d.fieldOf (d.field "info") "version").isTruthy = true →
    d.Displays (d.fieldOf (d.field "info") "version")
  url : d.FitsUrl
  description : (d.fieldOf (d.field "info") "description").isTruthy = true →
    (d.fieldOf (d.field "info") "description").IsText

-- ========================================================== small parts

theorem needs_display (v : Value) : Needs (d.display v) (d.Displays v) := by
  unfold display Failure.ofDisplay
  split
  next h => exact Needs.ok h
  next h => exact Needs.misuse h

theorem needs_displayString (v : Value) :
    Needs (d.displayString v) (d.Displays v) :=
  (needs_display v).map String.ofList

/-- A text stands for itself, so it can always be written. -/
theorem displays_text (s : String) : d.Displays (.text s) := by
  unfold Displays whole Web.whole
  split <;> rfl

theorem displays_orElse_text {v : Value} {s : String} :
    d.Displays (v.orElse (.text s))
      ↔ (v.isTruthy = true → d.Displays v) := by
  unfold Value.orElse
  split
  next hv => exact ⟨fun h _ => h, fun h => h hv⟩
  next hv => exact ⟨fun _ h => absurd h hv, fun _ => displays_text s⟩

theorem needs_itemsOf (v : Value) : Needs (itemsOf v) (v.hasItems = true) := by
  cases v with
  | list | map | set | text | bytes | pair => exact Needs.ok rfl
  | _ => exact Needs.misuse (fun h => by cases h)

theorem needs_first (v : Value) : Needs (first v) (v.hasFirst = true) := by
  cases v with
  | list items =>
      cases items with
      | nil => exact Needs.misuse (by decide)
      | cons v rest => exact Needs.ok rfl
  | bytes octets =>
      cases octets with
      | nil => exact Needs.misuse (by decide)
      | cons o rest => exact Needs.ok rfl
  | text s =>
      unfold first Value.hasFirst
      dsimp only
      split
      next hs => exact Needs.ok (by rw [hs]; rfl)
      next hs => exact Needs.misuse (by rw [hs]; decide)
  | map entries =>
      unfold first Value.hasFirst
      dsimp only
      split
      next hfound => exact Needs.ok (by rw [hfound]; rfl)
      next hfound => exact Needs.misuse (by rw [hfound]; decide)
  | pair a b => exact Needs.ok rfl
  | _ => exact Needs.misuse (fun h => by cases h)

-- ========================================================== parameters

theorem needs_schemaType (schema : Value) :
    Needs (d.schemaType schema) (schema.isMap = true →
      (d.fieldOf schema "type").isTruthy = true →
        d.Displays (d.fieldOf schema "type")) := by
  unfold schemaType
  dsimp only
  split
  next hmap =>
    split
    next htype =>
      exact (needs_displayString _).congr
        ⟨fun h _ _ => h, fun h => h hmap htype⟩
    next htype =>
      have hvacuous : schema.isMap = true →
          (d.fieldOf schema "type").isTruthy = true →
            d.Displays (d.fieldOf schema "type") :=
        fun _ h => absurd h htype
      split
      · exact Needs.ok hvacuous
      · exact Needs.ok hvacuous
  next hmap => exact Needs.ok fun h => absurd h hmap

/-- A declaration repeats a token of the path if it is located there and has
the name of the token. -/
theorem repeats_iff {tokens : List String} {location : Location}
    {name : Value} :
    (location == .path && (name.text?.map tokens.contains).getD false) = true
      ↔ location = .path ∧ ∃ token ∈ tokens, name = .text token := by
  rw [Bool.and_eq_true, beq_iff_eq]
  refine and_congr_right fun _ => ?_
  cases name with
  | text s =>
      rw [Value.text?, Option.map_some, Option.getD_some,
        List.contains_iff_mem]
      constructor
      · exact fun h => ⟨s, h, rfl⟩
      · rintro ⟨_, ht, h⟩
        cases h
        exact ht
  | _ =>
      constructor
      · intro h; cases h
      · rintro ⟨_, -, h⟩; cases h

/-- A declared parameter that makes none is left out, and one that does has
to be fit. -/
theorem needs_declaredParam (tokens : List String) (p : Value) :
    Needs (d.declaredParam tokens p) (d.Declares tokens p → d.FitsParam p) := by
  unfold declaredParam
  dsimp only
  split
  next hparts =>
    refine Needs.ok fun h => ?_
    rw [h.isMap, h.name, h.schema] at hparts
    cases hparts
  next hparts =>
  simp only [Bool.not_eq_true, Bool.not_eq_false', Bool.and_eq_true] at hparts
  obtain ⟨⟨hmap, hname⟩, hschema⟩ := hparts
  split
  next hnone =>
    refine Needs.ok fun h => ?_
    obtain ⟨_, hlocation, -⟩ := h.location
    rw [hnone] at hlocation
    cases hlocation
  next location hlocation =>
  split
  next hpath =>
    refine Needs.ok fun h => ?_
    obtain ⟨found, hfound, hnot⟩ := h.location
    rw [hlocation] at hfound
    cases hfound
    exact absurd (repeats_iff.mp hpath) hnot
  next hpath =>
  have hdeclares : d.Declares tokens p :=
    ⟨hmap, hname, hschema, location, hlocation,
      fun h => hpath (repeats_iff.mpr h)⟩
  have hchecked : ∀ param : String → Option String → Param,
      Needs (Failure.ofChecked "Param"
        (param <$> (Shape.text (d.fieldOf p "name")).under "name"
          <*> (Shape.optional Shape.text
            (d.fieldOf p "description")).under "description"))
        ((d.fieldOf p "name").IsText ∧ (d.fieldOf p "description" = .null
          ∨ (d.fieldOf p "description").IsText)) := by
    intro param
    refine Needs.ofChecked ?_
    rw [Shape.Checked.exists_seq_eq_ok, Shape.Checked.exists_map_eq_ok]
    simp only [Shape.Checked.under_eq_ok]
    exact and_congr Value.exists_text_iff Value.exists_optional_text_iff
  refine ((needs_schemaType _).bind fun type _ =>
    (hchecked _).map some).congr ⟨?_, fun h => ?_⟩
  · rintro ⟨htype, hname, hdescription⟩ -
    exact ⟨htype, hname, hdescription⟩
  · obtain ⟨htype, hname, hdescription⟩ := h hdeclares
    exact ⟨htype, hname, hdescription⟩

/-- The parameters of a path need that all declarations that make one are
fit. -/
theorem needs_parameters (declared : List Value) (path : String) :
    Needs (d.parameters declared path) (∀ p ∈ declared,
      d.Declares (distinctTokens path) p → d.FitsParam p) :=
  (Needs.mapM fun p _ => needs_declaredParam (distinctTokens path) p).bind_ok _

-- ============================================================= merging

theorem needs_identity (p : Value) :
    Needs (d.identity p) (d.HasKeys p) := by
  unfold identity
  dsimp only
  split
  next h => exact Needs.ok (Bool.and_eq_true_iff.mp h)
  next h => exact Needs.misuse fun hkeys => h (Bool.and_eq_true_iff.mpr hkeys)

/-- The identity of a declaration is its name and its location. -/
theorem identity_eq_ok {p : Value} {found : Value × Value}
    (h : d.identity p = .ok found) : found = d.named p := by
  unfold identity at h
  dsimp only at h
  split at h
  · cases h
    rfl
  · cases h

/-- Merging compares all declarations that are mappings, and needs their
names and locations as keys. -/
theorem needs_merged (shared own : List Value) :
    Needs (d.merged shared own)
      (∀ p ∈ shared ++ own, p.isMap = true → d.HasKeys p) := by
  have hchoice : ∀ (taken : List (Value × Value)) (p : Value),
      Needs (do
        if p.isMap then
          let this ← d.identity p
          return !taken.any (sameIdentity this)
        else return true) (p.isMap = true → d.HasKeys p) := by
    intro taken p
    split
    next hmap =>
      exact ((needs_identity p).bind_ok _).congr
        ⟨fun h _ => h, fun h => h hmap⟩
    next hmap => exact Needs.ok fun h => absurd h hmap
  refine (Needs.bind (Needs.mapM fun p _ => needs_identity p)
    fun taken _ => (Needs.filterM fun p _ => hchoice taken p).bind_ok
      (· ++ own)).congr ?_
  rw [List.forall_mem_append, and_comm]
  exact and_congr_right fun _ =>
    ⟨fun h p hp hmap => h p (List.mem_filter.mpr ⟨hp, hmap⟩),
      fun h p hp => h p (List.mem_filter.mp hp).1 (List.mem_filter.mp hp).2⟩

/-- What is left of the shared declarations, with the own ones. -/
theorem merged_eq_ok {shared own declared : List Value}
    (h : d.merged shared own = .ok declared) :
    declared = shared.filter (fun p => !d.isOverridden own p) ++ own := by
  obtain ⟨taken, htaken, h⟩ := Steps.bind_eq_ok.mp h
  obtain ⟨kept, hkept, h⟩ := Steps.bind_eq_ok.mp h
  cases h
  have hnamed : taken = (own.filter Value.isMap).map d.named :=
    Steps.eq_map_of_mapM (fun _ _ hp => identity_eq_ok hp) htaken
  refine congrArg (· ++ own) (Steps.filterM_eq_ok ?_ hkept)
  intro p b hb
  split at hb
  next hmap =>
    obtain ⟨this, hthis, hb⟩ := Steps.bind_eq_ok.mp hb
    cases hb
    rw [isOverridden, hmap, Bool.true_and, identity_eq_ok hthis, hnamed,
      List.any_map]
    rfl
  next hmap =>
    cases hb
    rw [isOverridden, eq_false_of_ne_true hmap, Bool.false_and]
    rfl

/-- What is listed, once it is known to have items. -/
theorem listed_eq {v : Value} {items : List Value}
    (h : itemsOf (d.listing v) = .ok items) :
    d.listed v = items.filterMap d.inlined := by
  rw [listed, h]

/-- The declarations of an operation need that they can be listed and
compared. -/
theorem needs_declaredParameters (op : Operation) :
    Needs (d.declaredParameters op)
      (((d.listing op.item).hasItems = true
          ∧ (d.listing op.body).hasItems = true)
        ∧ ∀ p ∈ d.listed op.item ++ d.listed op.body, p.isMap = true →
          d.HasKeys p) := by
  have hlist : ∀ v, Needs (do
      return (← itemsOf (d.listing v)).filterMap d.inlined)
        ((d.listing v).hasItems = true) :=
    fun v => (needs_itemsOf _).bind_ok _
  have hlisted : ∀ {v found}, (do
      return (← itemsOf (d.listing v)).filterMap d.inlined) = .ok found →
        d.listed v = found := by
    intro v found h
    obtain ⟨items, hitems, h⟩ := Steps.bind_eq_ok.mp h
    cases h
    exact listed_eq hitems
  refine ((hlist op.item).bind fun shared hshared =>
    (hlist op.body).bind fun own hown =>
      (needs_merged shared own).congr ?_).congr and_assoc.symm
  · rw [hlisted hshared, hlisted hown]

/-- They are those that stand for it. -/
theorem declaredParameters_eq_ok {op : Operation} {declared : List Value}
    (h : d.declaredParameters op = .ok declared) :
    declared = d.standing op := by
  obtain ⟨shared, hshared, h⟩ := Steps.bind_eq_ok.mp h
  obtain ⟨own, hown, h⟩ := Steps.bind_eq_ok.mp h
  obtain ⟨_, hitems, hshared⟩ := Steps.bind_eq_ok.mp hshared
  obtain ⟨_, hitems', hown⟩ := Steps.bind_eq_ok.mp hown
  cases hshared
  cases hown
  rw [merged_eq_ok h, standing, listed_eq hitems, listed_eq hitems']

-- ============================================================= catalog

theorem needs_nameOf (op : Operation) (id : List Char) :
    Needs (d.nameOf op id)
      ((d.fieldOf op.body "operationId").isTruthy = true →
        d.Displays (d.fieldOf op.body "operationId")) := by
  unfold nameOf
  dsimp only
  split
  next h =>
    exact ((needs_display _).bind_ok Naming.toIdentifier).congr
      ⟨fun hd _ => hd, fun hd => hd h⟩
  next h => exact Needs.ok fun ht => absurd ht h

theorem needs_draft (op : Operation) :
    Needs (d.draft op) (d.FitsDraft op) := by
  have hid : Needs (d.idOf op) (d.Displays op.path) :=
    (needs_display op.path).bind_ok _
  refine (hid.bind fun id _ => (needs_nameOf op id).bind fun name _ =>
    (needs_declaredParameters op).bind fun declared hdeclared =>
      (?_ : Needs _ ((∃ path, op.path = .text path) ∧ ∀ path,
        op.path = .text path → ∀ p ∈ d.standing op,
          d.Declares (distinctTokens path) p → d.FitsParam p))).congr
    ⟨?_, ?_⟩
  · rw [← declaredParameters_eq_ok hdeclared]
    split
    next path hpath =>
      refine ((needs_parameters declared path).bind_ok _).congr
        ⟨fun h => ⟨⟨path, hpath⟩, fun path' hpath' => ?_⟩,
          fun h => h.2 path hpath⟩
      cases hpath.symm.trans hpath'
      exact h
    next hnot =>
      refine Needs.misuse ?_
      rintro ⟨⟨path, hpath⟩, -⟩
      exact hnot path hpath
  · rintro ⟨-, hname, ⟨hlistings, hkeys⟩, hpath, hparameters⟩
    exact ⟨hpath, hname, hlistings, hkeys, hparameters⟩
  · rintro ⟨⟨path, hpath⟩, hname, hlistings, hkeys, hparameters⟩
    refine ⟨?_, hname, ⟨hlistings, hkeys⟩, ⟨path, hpath⟩, hparameters⟩
    rw [hpath]
    exact displays_text path

/-- The description of an endpoint ends in a text, so what comes before it
decides. -/
theorem isText_descriptionOf (op : Operation) (path : String) :
    (d.descriptionOf op path).IsText
      ↔ ((d.described op).isTruthy = true → (d.described op).IsText) := by
  unfold descriptionOf
  rw [Value.orElse_assoc]
  exact Value.isText_orElse (.text _)

theorem needs_endpoint (draft : Draft) (id name : List Char) :
    Needs (draft.endpoint id name) draft.description.IsText :=
  (needs_text "Endpoint" "description" draft.description).bind_ok _

/-- The catalog needs that every operation is fit for an endpoint. -/
theorem needs_catalog {ops : List Operation} (h : d.operations = .ok ops) :
    Needs d.catalog (∀ op ∈ ops, d.FitsEndpoint op) := by
  -- all drafts are made before the first description is checked
  have hnamed : ∀ drafts : List Draft,
      Needs ((finalNames drafts).mapM fun named =>
        named.1.endpoint named.2.1 named.2.2)
        (∀ dr ∈ drafts, dr.description.IsText) := by
    intro drafts
    refine (Needs.mapM fun named _ => needs_endpoint named.1 named.2.1
      named.2.2).congr ?_
    rw [← List.forall_mem_map (f := Prod.fst)
      (P := fun dr : Draft => dr.description.IsText), map_fst_finalNames]
  have hdescribed : ∀ {drafts : List Draft}, ops.mapM d.draft = .ok drafts →
      ((∀ dr ∈ drafts, dr.description.IsText) ↔ ∀ op ∈ ops,
        (d.described op).isTruthy = true → (d.described op).IsText) := by
    intro drafts hdrafts
    refine (Steps.forall_mem_iff_of_forall₂ ?_
      (Steps.forall₂_of_mapM hdrafts)).symm
    intro op dr hdraft
    obtain ⟨-, -, -, -, -, hdescription, -, -⟩ := draft_eq_ok hdraft
    rw [hdescription]
    exact (isText_descriptionOf op dr.path).symm
  unfold catalog
  rw [h]
  refine ((Needs.mapM fun op _ => needs_draft op).bind fun drafts hdrafts =>
    ((hnamed drafts).congr (hdescribed hdrafts)).bind_ok _).congr ⟨?_, ?_⟩
  · rintro ⟨hdraft, hdescription⟩ op hop
    exact ⟨hdraft op hop, hdescription op hop⟩
  · intro hfits
    exact ⟨fun op hop => (hfits op hop).toFitsDraft,
      fun op hop => (hfits op hop).description⟩

-- ============================================================== server

/-- The parts of a base URL, written one after the other. -/
theorem needs_host :
    Needs (do
      let scheme ← first d.schemes
      let base := (Value.entry? "basePath" d.entries).getD (.text "")
      return (← d.displayString scheme) ++ "://"
        ++ (← d.displayString (d.field "host")) ++ (← d.displayString base))
      d.FitsHost := by
  refine ((needs_first d.schemes).bind_of fun scheme _ =>
    (needs_displayString scheme).bind fun _ _ =>
      (needs_displayString (d.field "host")).bind fun _ _ =>
        (needs_displayString _).bind_ok _).congr ⟨?_, ?_⟩
  · rintro ⟨hfirst, hscheme⟩
    obtain ⟨scheme, hfound⟩ := (needs_first d.schemes).exists_ok_iff.mpr hfirst
    obtain ⟨-, hhost, hbase⟩ := hscheme scheme hfound
    exact ⟨⟨hfirst, fun scheme hfound => (hscheme scheme hfound).1⟩, hhost,
      hbase⟩
  · rintro ⟨⟨hfirst, hscheme⟩, hhost, hbase⟩
    exact ⟨hfirst, fun scheme hfound =>
      ⟨hscheme scheme hfound, hhost, hbase⟩⟩

theorem needs_baseUrl : Needs d.baseUrl d.FitsUrl := by
  unfold baseUrl FitsUrl
  cases d.listedUrl? with
  | some url => exact needs_displayString url
  | none =>
      dsimp only
      split
      next hmissing =>
        rw [Bool.not_eq_true'] at hmissing
        refine Needs.ok fun h => ?_
        rw [hmissing] at h
        cases h
      next hhost =>
        rw [Bool.not_eq_true', Bool.not_eq_false] at hhost
        exact needs_host.congr ⟨fun h _ => h, fun h => h hhost⟩

end Document

end Toolsmith
