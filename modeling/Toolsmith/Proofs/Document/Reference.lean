/-
A parameter that is declared by a reference to a shared one. The reference
stands for the entry that it names, but for that entry alone: what the entry
refers to in turn is not looked up, and the entry is read as if it had no
`$ref`. So a reference means the same as the entry written in its place unless
the entry is itself a reference, and then the second reference is lost.

The proof compares two documents that differ in one declared parameter. Beside
this parameter, a reference in another place may lead to a part of the paths
that holds it. Such a part is not the same in both documents, but it is read as
the same declaration: what a declaration is asked for leads no closer to the
parameter.
-/
import Toolsmith.Proofs.Document.Place
import Toolsmith.Proofs.Text.Parts

namespace Toolsmith.Document

open Value

variable {d : Document} {p q r : Value}

-- ========================================================= declarations

/-- The names that a declaration is asked for. -/
def declaredNames : List String :=
  ["name", "in", "schema", "required", "description"]

/-- The names that a schema is asked for. -/
def schemaNames : List String := ["type", "$ref"]

/-- None of them leads closer to a place among the parameters. -/
theorem isAside_of_mem :
    ∀ name ∈ declaredNames ++ schemaNames, Place.isAside name = true := by
  decide +kernel

/-- Two values are the same for a declaration: they are one value, or mappings
that are the same as schemas. -/
inductive SamePart : Value → Value → Prop where
  | same (v : Value) : SamePart v v
  | maps {entries entries' : List (Value × Value)} (hne : entries ≠ [])
      (hne' : entries' ≠ [])
      (h : ∀ name ∈ schemaNames, entry? name entries = entry? name entries') :
      SamePart (.map entries) (.map entries')

namespace SamePart

theorem trans {u v w : Value} (huv : SamePart u v) (hvw : SamePart v w) :
    SamePart u w := by
  cases huv with
  | same => exact hvw
  | maps hne hne' h =>
      cases hvw with
      | same => exact .maps hne hne' h
      | maps _ hne'' h' =>
          exact .maps hne hne'' fun name hname =>
            (h name hname).trans (h' name hname)

variable {v w : Value} (h : SamePart v w)
include h

theorem isTruthy : v.isTruthy = w.isTruthy := by
  cases h with
  | same => rfl
  | maps hne hne' =>
      simp only [Value.isTruthy, List.isEmpty_eq_false_iff.mpr hne,
        List.isEmpty_eq_false_iff.mpr hne']

theorem text : Shape.text v = Shape.text w := by
  cases h <;> rfl

theorem optionalText :
    Shape.optional Shape.text v = Shape.optional Shape.text w := by
  cases h <;> rfl

theorem text? : v.text? = w.text? := by
  cases h <;> rfl

theorem declaredLocation? : declaredLocation? v = declaredLocation? w := by
  unfold Document.declaredLocation?
  rw [h.isTruthy, h.text?]

/-- They give a parameter the same type. -/
theorem schemaType : d.schemaType v = d.schemaType w := by
  cases h with
  | same => rfl
  | @maps entries entries' _ _ h =>
      have htype : d.fieldOf (.map entries) "type"
          = d.fieldOf (.map entries') "type" :=
        congrArg (fun found => found.getD .null) (h "type" (by decide))
      have href : d.fieldOf? (.map entries) "$ref"
          = d.fieldOf? (.map entries') "$ref" := h "$ref" (by decide)
      unfold Document.schemaType
      rw [htype, href]
      rfl

/-- They are one key, or no keys both. -/
theorem eq_or_not_isKey : v = w ∨ v.isKey = false ∧ w.isKey = false := by
  cases h with
  | same => exact Or.inl rfl
  | maps => exact Or.inr ⟨rfl, rfl⟩

end SamePart

/-- Two values are the same declaration: whatever is asked of them has the same
answer. -/
structure SameDeclaration (d : Document) (p q : Value) : Prop where
  isMap : p.isMap = q.isMap
  field : ∀ name ∈ declaredNames,
    SamePart (d.fieldOf p name) (d.fieldOf q name)

namespace SameDeclaration

theorem refl (p : Value) : d.SameDeclaration p p := ⟨rfl, fun _ _ => .same _⟩

theorem trans (hpq : d.SameDeclaration p q) (hqr : d.SameDeclaration q r) :
    d.SameDeclaration p r :=
  ⟨hpq.isMap.trans hqr.isMap,
    fun name hname => (hpq.field name hname).trans (hqr.field name hname)⟩

variable (h : d.SameDeclaration p q)
include h

/-- They make the same parameter. -/
theorem declaredParam (tokens : List String) :
    d.declaredParam tokens p = d.declaredParam tokens q := by
  have hname := h.field "name" (by decide)
  have hschema := h.field "schema" (by decide)
  have hin := h.field "in" (by decide)
  have hrequired := h.field "required" (by decide)
  have hdescription := h.field "description" (by decide)
  unfold Document.declaredParam
  dsimp only
  rw [h.isMap, hname.isTruthy, hname.text?, hname.text, hschema.isTruthy,
    hschema.schemaType, hin.declaredLocation?, hrequired.isTruthy,
    hdescription.optionalText]

/-- They are identified alike. -/
theorem identity : d.identity p = d.identity q := by
  have hname := (h.field "name" (by decide)).eq_or_not_isKey
  have hin := (h.field "in" (by decide)).eq_or_not_isKey
  unfold Document.identity
  dsimp only
  rcases hname with hname | ⟨hname, hname'⟩
  · rcases hin with hin | ⟨hin, hin'⟩
    · rw [hname, hin]
    · rw [hin, hin', Bool.and_false, Bool.and_false]
      rfl
  · rw [hname, hname', Bool.false_and, Bool.false_and]
    rfl

end SameDeclaration

/-- The declarations that a part lists, with what references among them lead
to. -/
def declarations (d : Document) (v : Value) : Except Failure (List Value) := do
  return (← itemsOf (d.listing v)).filterMap d.inlined

theorem declaredParameters_eq (op : Operation) :
    d.declaredParameters op = (do
      d.merged (← d.declarations op.item) (← d.declarations op.body)) := rfl

/-- Side by side, two lists have the same declarations. -/
abbrev SameDeclarations (d : Document) : List Value → List Value → Prop :=
  List.Forall₂ d.SameDeclaration

/-- Lists of the same declarations are merged to such lists. -/
theorem paired_merged {shared shared' own own' : List Value}
    (hshared : d.SameDeclarations shared shared')
    (hown : d.SameDeclarations own own') :
    Steps.Paired d.SameDeclarations (d.merged shared own)
      (d.merged shared' own') := by
  have htaken : (own.filter Value.isMap).mapM d.identity
      = (own'.filter Value.isMap).mapM d.identity := by
    refine Steps.mapM_eq_of_forall₂
      ((List.rel_filter ?_ hown).imp fun _ _ h => h.identity)
    intro a b h
    show a.isMap = true ↔ b.isMap = true
    rw [h.isMap]
  unfold merged
  rw [htaken]
  cases (own'.filter Value.isMap).mapM d.identity with
  | error e => exact .error e
  | ok taken =>
      refine (Steps.paired_filterM ?_ hshared).bind
        fun _ _ hkept => .ok (List.rel_append hkept hown)
      intro a b h
      rw [h.isMap, h.identity]

/-- Lists of the same declarations make the same parameters. -/
theorem parameters_of_sameDeclarations {declared declared' : List Value}
    (h : d.SameDeclarations declared declared') (path : String) :
    d.parameters declared path = d.parameters declared' path := by
  unfold parameters
  dsimp only
  rw [Steps.mapM_eq_of_forall₂ (h.imp fun _ _ h =>
    h.declaredParam (distinctTokens path))]

-- ======================================================== two documents

namespace Place

variable {place : Place} {x y v w : Value}

/-- The path item around the place is the same as a schema. -/
theorem samePart_pathItem (place : Place) (x y : Value) :
    SamePart (within place.inner (place.listed x))
      (within place.inner (place.listed y)) := by
  obtain ⟨f, fs, hinner⟩ := place.exists_inner_eq
  rw [hinner, within_cons, within_cons]
  refine .maps (f.entries_ne_nil _) (f.entries_ne_nil _) fun name hname => ?_
  rcases f.entry?_entries name with ⟨hkey, -⟩ | hother
  · have hf : f ∈ place.inner := hinner ▸ List.mem_cons_self
    have haside := isAside_of_mem name (List.mem_append_right _ hname)
    exact absurd hkey (key_ne_of_isAside haside hf)
  · exact hother _ _

/-- Twins inside of the paths are the same declaration. -/
theorem Twin.sameDeclaration
    (h : place.Twin x y (place.path :: place.inner) v w) :
    (place.fill x).SameDeclaration v w := by
  refine ⟨h.isMap, fun name hname => ?_⟩
  cases h with
  | same v => exact .same _
  | @around fs hfs =>
      cases fs with
      | nil => exact .same _
      | cons f fs =>
          unfold Document.fieldOf
          rw [within_cons, within_cons, fieldOf?_around, fieldOf?_around]
          rcases f.entry?_entries name with ⟨hkey, hfound⟩ | hother
          · rw [hfound, hfound]
            -- only a path may have such a name, and under it is a path item
            rcases List.suffix_cons_iff.mp hfs with heq | hfs
            · rw [(List.cons.inj heq).2]
              exact samePart_pathItem place x y
            · have haside := isAside_of_mem name (List.mem_append_left _ hname)
              exact absurd hkey (key_ne_of_isAside haside
                (hfs.subset List.mem_cons_self))
          · rw [hother (within fs (place.listed x))
              (within fs (place.listed y))]
            exact .same _

/-- What a declaration makes does not depend on the rest of the document. -/
theorem declaredParam_fill (x y : Value) (tokens : List String) :
    (place.fill x).declaredParam tokens
      = (place.fill y).declaredParam tokens := by
  funext v
  unfold declaredParam schemaType
  simp only [displayString_fill x y]
  rfl

theorem parameters_fill (x y : Value) (declared : List Value) (path : String) :
    (place.fill x).parameters declared path
      = (place.fill y).parameters declared path := by
  unfold parameters
  dsimp only
  rw [declaredParam_fill x y]

theorem merged_fill (x y : Value) (shared own : List Value) :
    (place.fill x).merged shared own = (place.fill y).merged shared own := rfl

/-- The two values stand for the same declaration in the place, or for none. -/
def StandAlike (place : Place) (x y : Value) : Prop :=
  Option.Rel (place.fill x).SameDeclaration ((place.fill x).inlined x)
    ((place.fill y).inlined y)

/-- Every other declaration stands for the same one in both documents. -/
theorem standAlike_other (v : Value) :
    Option.Rel (place.fill x).SameDeclaration ((place.fill x).inlined v)
      ((place.fill y).inlined v) := by
  unfold inlined
  rw [fieldOf?_fill x y]
  cases (place.fill y).fieldOf? v "$ref" with
  | none => exact .some (.refl v)
  | some ref =>
      exact Steps.rel_imp (fun _ _ h => h.sameDeclaration)
        (twin_resolve? ref)

/-- Twins list the same declarations. -/
theorem paired_declarations (hplace : place.StandAlike x y)
    (h : place.Twin x y place.inner v w) :
    Steps.Paired (place.fill x).SameDeclarations
      ((place.fill x).declarations v) ((place.fill y).declarations w) := by
  refine (paired_items h).bind fun items items' hall => .ok ?_
  refine List.rel_filterMap ?_ hall
  rintro a b (rfl | ⟨rfl, rfl⟩)
  · exact standAlike_other a
  · exact hplace

/-- The two documents have the same declarations for the same operation. -/
theorem paired_declaredParameters (hplace : place.StandAlike x y)
    {op op' : Operation} (h : place.TwinOperation x y op op') :
    Steps.Paired (place.fill x).SameDeclarations
      ((place.fill x).declaredParameters op)
      ((place.fill y).declaredParameters op') := by
  rw [declaredParameters_eq, declaredParameters_eq]
  refine (paired_declarations hplace h.item).bind fun _ _ hshared => ?_
  refine (paired_declarations hplace h.body).bind fun _ _ hown => ?_
  rw [← merged_fill x y]
  exact paired_merged hshared hown

/-- The two documents draw the same draft from the same operation. -/
theorem draft_eq (hplace : place.StandAlike x y) {op op' : Operation}
    (h : place.TwinOperation x y op op') :
    (place.fill x).draft op = (place.fill y).draft op' := by
  have hdeclared := paired_declaredParameters hplace h
  have hfield : ∀ name, isAside name = true →
      (place.fill x).fieldOf op.body name
        = (place.fill y).fieldOf op'.body name :=
    fun name hname => h.body.fieldOf_eq hname
  have hid : (place.fill x).idOf op = (place.fill y).idOf op' := by
    unfold idOf display Operation.lowerVerb
    rw [h.path, h.verb, whole_fill x y]
  have hname : ∀ id, (place.fill x).nameOf op id
      = (place.fill y).nameOf op' id := by
    intro id
    unfold nameOf display
    rw [hfield "operationId" (by decide +kernel)]
    simp only [whole_fill x y]
  have hdescription : ∀ path, (place.fill x).descriptionOf op path
      = (place.fill y).descriptionOf op' path := by
    intro path
    unfold descriptionOf Operation.method
    rw [hfield "summary" (by decide +kernel),
      hfield "description" (by decide +kernel), h.verb]
  unfold draft
  rw [hid]
  refine bind_congr fun id => ?_
  rw [hname id]
  refine bind_congr fun name => ?_
  refine hdeclared.bind_eq fun declared declared' hall => ?_
  rw [h.path]
  cases op'.path with
  | text path =>
      dsimp only
      rw [parameters_of_sameDeclarations hall, parameters_fill x y,
        hdescription, hfield "requestBody" (by decide +kernel),
        hfield "responses" (by decide +kernel), whole_fill x y,
        whole_fill x y, Operation.method, Operation.method, h.verb]
  | _ => rfl

/-- The two documents have the same catalog. -/
theorem catalog_eq (hplace : place.StandAlike x y) :
    (place.fill x).catalog = (place.fill y).catalog := by
  unfold catalog
  refine (paired_operations place x y).bind_eq fun ops ops' hall => ?_
  rw [Steps.mapM_eq_of_forall₂ (hall.imp fun _ _ h => draft_eq hplace h)]

end Place

-- =========================================================== references

/-- A reference to a shared parameter. -/
def reference (key : String) : Value :=
  .ofFields [("$ref", .text ("#/components/parameters/" ++ key))]

/-- The shared parameter that a document has under a key. -/
def shared? (d : Document) (key : String) : Option Value := do
  let components ← Value.entry? "components" d.entries
  let parameters ← d.fieldOf? components "parameters"
  d.fieldOf? parameters key

/-- A part without what it refers to. -/
def bare (d : Document) (v : Value) : Value :=
  match d.look v with
  | .map entries =>
    .map (entries.filter fun e => !e.1.sameKey (.text "$ref"))
  | _ => v

/-- It has everything but the reference. -/
theorem fieldOf?_bare (v : Value) (name : String) :
    d.fieldOf? (d.bare v) name
      = if name = "$ref" then none else d.fieldOf? v name := by
  unfold bare fieldOf?
  cases hlook : d.look v with
  | map entries =>
      show Value.entry? name (entries.filter _) = _
      unfold Value.entry? find?
      rw [List.find?_filter]
      split
      next heq =>
        subst heq
        simp
      next hne =>
        -- an entry with another name is not left out
        have hsame : (fun e : Value × Value =>
            decide ((!e.1.sameKey (.text "$ref")) = true
              ∧ e.1.sameKey (.text name) = true))
              = fun e => e.1.sameKey (.text name) := by
          funext e
          by_cases hkey : e.1 = .text name
          · have hother : (text name).sameKey (.text "$ref") = false :=
              Bool.eq_false_iff.mpr fun h =>
                hne (text.inj (sameKey_text_iff.mp h))
            rw [hkey, hother, sameKey_text_iff.mpr rfl]
            rfl
          · simp [mt sameKey_text_iff.mp hkey]
        rw [hsame]
        rfl
  | _ =>
      dsimp only
      rw [hlook]
      split <;> rfl

theorem isMap_bare {v : Value} (h : v.isMap = true) :
    (d.bare v).isMap = true := by
  unfold bare
  split
  · rfl
  · exact h

/-- A mapping without its reference is the same declaration. -/
theorem sameDeclaration_bare {v : Value} (h : v.isMap = true) :
    d.SameDeclaration v (d.bare v) := by
  refine ⟨h.trans (isMap_bare h).symm, fun name hname => ?_⟩
  have hne : ∀ name ∈ declaredNames, name ≠ "$ref" := by decide
  unfold fieldOf
  rw [fieldOf?_bare, if_neg (hne name hname)]
  exact .same _

theorem inlined_bare (v : Value) : d.inlined (d.bare v) = some (d.bare v) := by
  unfold inlined
  rw [fieldOf?_bare, if_pos rfl]

variable {place : Place} {key : String} {entry : Value}

/-- A reference leads to the shared parameter with its key. -/
theorem inlined_reference (hkey : '/' ∉ key.toList) {x : Value}
    (hentry : (place.fill x).shared? key = some entry)
    (hmap : entry.isMap = true) :
    (place.fill x).inlined (reference key) = some entry := by
  have href : (place.fill x).fieldOf? (reference key) "$ref"
      = some (.text ("#/components/parameters/" ++ key)) := by
    show Value.entry? "$ref" [(.text "$ref", _)] = _
    simp [Value.entry?, find?, sameKey_text_iff]
  have hpath : Text.after? "#/".toList
      ("#/components/parameters/" ++ key).toList
        = some ("components/parameters/".toList ++ key.toList) := by
    rw [Text.after?_eq_some_iff, String.toList_append]
    rfl
  have hkeys : Text.splitAt '/'
      ("components/parameters/".toList ++ key.toList)
        = ["components".toList, "parameters".toList, key.toList] := by
    have hnone : ∀ part ∈
        ["components".toList, "parameters".toList, key.toList],
          '/' ∉ part := by
      simpa using hkey
    exact Text.splitAt_join (List.cons_ne_nil _ _) hnone
  have hresolve : (place.fill x).resolve?
      (.text ("#/components/parameters/" ++ key)) = some entry := by
    have hfollow : (place.fill x).follow
        ["components".toList, "parameters".toList, key.toList]
          (place.fill x).web.root = some entry := by
      rw [← hentry]
      simp only [follow, String.ofList_toList, Option.bind_fun_some]
      rfl
    unfold resolve?
    simp only [text?, Option.bind_eq_bind, Option.bind_some]
    rw [hpath, Option.bind_some, hkeys, hfollow, Option.bind_some, if_pos hmap]
  unfold inlined
  rw [href]
  exact hresolve

/-- A reference leads to mappings only. -/
theorem isMap_of_resolve? {ref target : Value}
    (h : d.resolve? ref = some target) : target.isMap = true := by
  obtain ⟨_, -, h⟩ := Option.bind_eq_some_iff.mp h
  obtain ⟨_, -, h⟩ := Option.bind_eq_some_iff.mp h
  obtain ⟨found, -, h⟩ := Option.bind_eq_some_iff.mp h
  split at h
  next hmap => exact Option.some.inj h ▸ hmap
  next => cases h

/-- A part without its reference stands for itself in every place. -/
theorem inlined_bare_fill (x y v : Value) :
    (place.fill y).inlined ((place.fill x).bare v)
      = some ((place.fill x).bare v) :=
  inlined_bare (d := place.fill y) v

/-- In a place, an entry that refers to a mapping is the same as that mapping
without what it refers to in turn. -/
theorem standAlike_target {x ref target : Value}
    (href : (place.fill x).fieldOf? entry "$ref" = some ref)
    (htarget : (place.fill x).resolve? ref = some target) :
    place.StandAlike entry ((place.fill x).bare target) := by
  have hentry : (place.fill entry).inlined entry
      = (place.fill entry).resolve? ref := by
    unfold inlined
    rw [Place.fieldOf?_fill entry x, href]
  have htwin := Place.twin_resolve? (p := place) (x := entry) (y := x) ref
  rw [htarget, ← hentry] at htwin
  unfold Place.StandAlike
  rw [inlined_bare_fill]
  generalize (place.fill entry).inlined entry = found at htwin ⊢
  cases htwin with
  | some h =>
      exact .some (h.sameDeclaration.trans
        (sameDeclaration_bare (isMap_of_resolve? htarget)))

/-- A reference to a shared parameter means the same as its entry without what
that refers to in turn. So it means the same as the entry itself if this has no
reference; an entry with one that leads to a mapping is, where it is listed
itself, the same as that mapping. -/
theorem catalog_reference (place : Place) {key : String} {entry : Value}
    (hkey : '/' ∉ key.toList)
    (hentry : (place.fill (reference key)).shared? key = some entry)
    (hmap : entry.isMap = true) :
    let d := place.fill (reference key)
    d.catalog = (place.fill (d.bare entry)).catalog
      ∧ (d.fieldOf? entry "$ref" = none →
        d.catalog = (place.fill entry).catalog)
      ∧ ∀ ref target, d.fieldOf? entry "$ref" = some ref →
        d.resolve? ref = some target →
          (place.fill entry).catalog = (place.fill (d.bare target)).catalog := by
  intro d
  have hreference : d.inlined (reference key) = some entry :=
    inlined_reference hkey hentry hmap
  refine ⟨Place.catalog_eq ?_, fun hnone => Place.catalog_eq ?_,
    fun ref target href htarget =>
      Place.catalog_eq (standAlike_target href htarget)⟩
  · show Option.Rel d.SameDeclaration (d.inlined (reference key)) _
    rw [hreference, inlined_bare_fill]
    exact .some (sameDeclaration_bare hmap)
  · have hentry : (place.fill entry).inlined entry = some entry := by
      unfold inlined
      rw [Place.fieldOf?_fill entry (reference key), hnone]
    show Option.Rel d.SameDeclaration (d.inlined (reference key)) _
    rw [hreference, hentry]
    exact .some (.refl entry)

/-- The only parameter of the only operation, in a document that shares two: `A`
refers to `B`, and `B` is a parameter of the query. -/
def chained : Place where
  knots := []
  root :=
    { before := [(.text "components", .map [(.text "parameters", .map
        [(.text "A", reference "B"),
         (.text "B", declaring (.text "q") (.text "query"))])])]
      key := .text "paths"
      after := [] }
  path := ⟨[], .text "/a", []⟩
  operation := some ⟨[], .text "get", []⟩
  list := ⟨[], .text "parameters", []⟩
  before := []
  after := []
  root_key := rfl
  operation_key := by
    rintro f hf
    cases hf
    decide +kernel
  list_key := rfl

/-- The names of the parameters of all endpoints, if there is a catalog. -/
def parameterNames (d : Document) : Option (List (List String)) :=
  d.catalog.toOption.map (·.1.map fun e => e.parameters.map (·.name))

/-- The reference to `B` means the parameter, and so does `B` written in its
place; the reference to `A` means nothing. -/
theorem catalog_reference_chained :
    (chained.fill (reference "A")).catalog = (chained.fill (.map [])).catalog
      ∧ (chained.fill (reference "B")).catalog
        = (chained.fill (declaring (.text "q") (.text "query"))).catalog
      ∧ (chained.fill (reference "A")).parameterNames = some [[]]
      ∧ (chained.fill (reference "B")).parameterNames = some [["q"]] := by
  have hA : (chained.fill (reference "A")).shared? "A"
      = some (reference "B") := rfl
  have hB : (chained.fill (reference "B")).shared? "B"
      = some (declaring (.text "q") (.text "query")) := rfl
  have hmeansA := catalog_reference chained (by decide) hA rfl
  have hmeansB := catalog_reference chained (by decide) hB rfl
  exact ⟨hmeansA.1, hmeansB.2.1 rfl, by decide +kernel, by decide +kernel⟩

/-- A reference does not always mean the same as its entry: if the entry is a
reference to a parameter, that parameter is lost. -/
theorem not_forall_reference :
    ¬ ∀ (place : Place) (key : String) (entry : Value), '/' ∉ key.toList →
      '~' ∉ key.toList →
      (place.fill (reference key)).shared? key = some entry →
      entry.isMap = true →
      ((place.fill (reference key)).fieldOf? entry "$ref" = none
        ∨ ∃ ref target,
          (place.fill (reference key)).fieldOf? entry "$ref" = some ref
            ∧ (place.fill (reference key)).resolve? ref = some target) →
      (place.fill (reference key)).catalog = (place.fill entry).catalog := by
  intro hall
  have hsame := hall chained "A" (reference "B") (by decide) (by decide) rfl
    rfl (Or.inr ⟨_, _, rfl, rfl⟩)
  have hnames : (chained.fill (reference "A")).parameterNames
      = (chained.fill (reference "B")).parameterNames := by
    unfold parameterNames
    rw [hsame]
  exact absurd hnames (by decide +kernel)

end Toolsmith.Document
