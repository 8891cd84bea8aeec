/-
A document with a place among the declared parameters of a path item or of one
of its operations, where any value may be put.

Around the place stand mappings, one inside the other: the document, its
paths, the path item and perhaps an operation. With one value in the place or
with another, the document has the same collections that hold themselves, so
whatever is looked at is found alike. What differs are these mappings alone,
and each of them in one entry. So two documents with different values in the
place are walked in step: the same keys lead to the same values, or to two
values that are one of these mappings in each document.
-/
import Toolsmith.Document.Catalog
import Toolsmith.Proofs.Document.Overriding
import Toolsmith.Proofs.Text.Rows

namespace Toolsmith

-- =============================================================== frames

namespace Value

/-- The key of a text is that text. -/
theorem sameKey_text_iff {k : Value} {name : String} :
    k.sameKey (.text name) = true ↔ k = .text name := by
  constructor
  · intro h
    rcases sameKey_cases h with ⟨_, _, hnumber⟩ | rfl | ⟨_, _, _, hmoment⟩
    · cases hnumber
    · rfl
    · cases hmoment
  · rintro rfl
    exact beq_self_eq_true name

/-- The entries of a mapping around one of them, which has a key but no
value. -/
structure Frame where
  before : List (Value × Value)
  key : Value
  after : List (Value × Value)

namespace Frame

/-- The entries with a value under the key. -/
def entries (f : Frame) (v : Value) : List (Value × Value) :=
  f.before ++ (f.key, v) :: f.after

/-- The mapping with a value under the key. -/
def around (f : Frame) (v : Value) : Value := map (f.entries v)

theorem entries_ne_nil (f : Frame) (v : Value) : f.entries v ≠ [] :=
  List.append_ne_nil_of_right_ne_nil _ (List.cons_ne_nil _ _)

theorem isTruthy_around (f : Frame) (v : Value) :
    (f.around v).isTruthy = true := by
  show (!(f.entries v).isEmpty) = true
  rw [List.isEmpty_eq_false_iff.mpr (f.entries_ne_nil v)]
  rfl

/-- The keys do not depend on the value. -/
theorem keys_entries (f : Frame) (v : Value) :
    (f.entries v).map (·.1)
      = f.before.map (·.1) ++ f.key :: f.after.map (·.1) := by
  simp [entries]

/-- The value of a frame is found under its key, unless the key is there
before; what is found under another key does not depend on it. -/
theorem entry?_entries (f : Frame) (name : String) :
    (f.key = .text name ∧ ∀ v, entry? name (f.entries v) = some v)
      ∨ ∀ v w, entry? name (f.entries v) = entry? name (f.entries w) := by
  unfold entry? find? entries
  simp only [List.find?_append]
  cases f.before.find? fun e => e.1.sameKey (.text name) with
  | some e => exact Or.inr fun _ _ => rfl
  | none =>
      simp only [Option.none_or, List.find?_cons]
      cases hkey : f.key.sameKey (.text name) with
      | true => exact Or.inl ⟨sameKey_text_iff.mp hkey, fun _ => rfl⟩
      | false => exact Or.inr fun _ _ => rfl

end Frame

/-- A value inside of frames, the outermost first. -/
def within (frames : List Frame) (v : Value) : Value :=
  frames.foldr Frame.around v

theorem within_cons (f : Frame) (frames : List Frame) (v : Value) :
    within (f :: frames) v = f.around (within frames v) := rfl

end Value

namespace Document

open Value

-- =============================================================== places

/-- A place in the list of parameters of a path item or of an operation, with
the whole document around it. The frames go inwards, and the one of the
operation is missing if the list is the path item's own. -/
structure Place where
  knots : List (Nat × Knot)
  root : Frame
  path : Frame
  operation : Option Frame
  list : Frame
  before : List Value
  after : List Value
  root_key : root.key = .text "paths"
  operation_key : ∀ f ∈ operation, (verb? f.key).isSome = true
  list_key : list.key = .text "parameters"

namespace Place

variable {p : Place} {x y v w : Value}

/-- The list of parameters with a value in the place. -/
def listed (p : Place) (x : Value) : Value := .list (p.before ++ x :: p.after)

theorem isTruthy_listed (x : Value) : (p.listed x).isTruthy = true := by
  show (!(p.before ++ x :: p.after).isEmpty) = true
  rw [List.isEmpty_eq_false_iff.mpr
    (List.append_ne_nil_of_right_ne_nil _ (List.cons_ne_nil _ _))]
  rfl

/-- What stands around the list inside of the path item, which is the first of
these frames. -/
def inner (p : Place) : List Frame := p.operation.toList ++ [p.list]

/-- The paths with a value in the place. -/
def paths (p : Place) (x : Value) : Value :=
  within (p.path :: p.inner) (p.listed x)

/-- The document with a value in the place. -/
def fill (p : Place) (x : Value) : Document :=
  ⟨⟨p.knots, p.root.around (p.paths x)⟩, p.root.entries (p.paths x)⟩

/-- The name leads no closer to the place from inside of a path item: it is
neither a verb nor the name of the list. -/
def isAside (name : String) : Bool :=
  name != "parameters" && (verb? (.text name)).isNone

/-- Inside of a path item no frame has its value under such a name. -/
theorem key_ne_of_isAside {name : String} (h : isAside name = true)
    {f : Frame} (hf : f ∈ p.inner) : f.key ≠ .text name := by
  obtain ⟨hname, hverb⟩ := Bool.and_eq_true_iff.mp h
  intro hkey
  rcases List.mem_append.mp hf with hf | hf
  · have hsome := p.operation_key f (Option.mem_toList.mp hf)
    rw [hkey, ← Option.not_isNone, hverb] at hsome
    cases hsome
  · rw [List.mem_singleton.mp hf, p.list_key] at hkey
    exact bne_iff_ne.mp hname (Value.text.inj hkey).symm

/-- Something stands around the list inside of every path item. -/
theorem exists_inner_eq (p : Place) : ∃ f fs, p.inner = f :: fs := by
  unfold inner
  cases p.operation with
  | none => exact ⟨_, _, rfl⟩
  | some f => exact ⟨_, _, rfl⟩

-- ============================================================== looking

/-- A look at a part only asks the collections that hold themselves. -/
theorem look_fill (x y v : Value) : (p.fill x).look v = (p.fill y).look v :=
  rfl

theorem fieldOf?_fill (x y v : Value) (name : String) :
    (p.fill x).fieldOf? v name = (p.fill y).fieldOf? v name := rfl

/-- So does spelling it out. -/
theorem whole_fill (x y v : Value) :
    (p.fill x).whole v = (p.fill y).whole v := by
  have hunfold : ∀ fuel opened u, (p.fill x).web.unfold fuel opened u
      = (p.fill y).web.unfold fuel opened u := by
    intro fuel
    induction fuel with
    | zero => exact fun _ _ => rfl
    | succ fuel ih =>
        intro opened u
        simp only [Web.unfold, ih]
        rfl
  unfold whole Web.whole
  rw [hunfold]
  rfl

theorem displayString_fill (x y v : Value) :
    (p.fill x).displayString v = (p.fill y).displayString v := by
  unfold displayString display
  rw [whole_fill]

theorem fieldOf?_around (f : Frame) (x v : Value) (name : String) :
    (p.fill x).fieldOf? (f.around v) name = entry? name (f.entries v) := rfl

-- ================================================================ twins

/-- Two values are the same, or they are what is around the list inside of some
of the frames, with `x` in the place and with `y`. -/
inductive Twin (p : Place) (x y : Value) (frames : List Frame) :
    Value → Value → Prop where
  | same (v : Value) : Twin p x y frames v v
  | around {fs : List Frame} (h : fs <:+ frames) :
      Twin p x y frames (within fs (p.listed x)) (within fs (p.listed y))

namespace Twin

variable {frames : List Frame}

theorem isMap (h : p.Twin x y frames v w) : v.isMap = w.isMap := by
  cases h with
  | same => rfl
  | @around fs =>
      cases fs with
      | nil => rfl
      | cons f fs => rfl

/-- A key leads from twins to twins. -/
theorem fieldOf? (h : p.Twin x y frames v w) (name : String) :
    Option.Rel (p.Twin x y frames) ((p.fill x).fieldOf? v name)
      ((p.fill y).fieldOf? w name) := by
  cases h with
  | same v => exact Steps.rel_refl .same _
  | @around fs hfs =>
      cases fs with
      | nil => exact .none
      | cons f fs =>
          rw [within_cons, within_cons, fieldOf?_around, fieldOf?_around]
          rcases f.entry?_entries name with ⟨-, hfound⟩ | hother
          · rw [hfound, hfound]
            exact .some (.around ((List.suffix_cons f fs).trans hfs))
          · rw [hother (within fs (p.listed x)) (within fs (p.listed y))]
            exact Steps.rel_refl .same _

theorem fieldOf (h : p.Twin x y frames v w) (name : String) :
    p.Twin x y frames ((p.fill x).fieldOf v name)
      ((p.fill y).fieldOf w name) := by
  unfold Document.fieldOf
  generalize hv : (p.fill x).fieldOf? v name = found
  generalize hw : (p.fill y).fieldOf? w name = found'
  have hfound := h.fieldOf? name
  rw [hv, hw] at hfound
  cases hfound with
  | none => exact .same _
  | some h => exact h

theorem isTruthy (h : p.Twin x y frames v w) : v.isTruthy = w.isTruthy := by
  cases h with
  | same => rfl
  | @around fs =>
      cases fs with
      | nil => exact (isTruthy_listed x).trans (isTruthy_listed y).symm
      | cons f fs => exact (f.isTruthy_around _).trans (f.isTruthy_around _).symm

/-- A name that leads no closer to the place finds the same value in both,
inside of the path item. -/
theorem fieldOf?_eq (h : p.Twin x y p.inner v w) {name : String}
    (hname : isAside name = true) :
    (p.fill x).fieldOf? v name = (p.fill y).fieldOf? w name := by
  cases h with
  | same v => rfl
  | @around fs hfs =>
      cases fs with
      | nil => rfl
      | cons f fs =>
          rw [within_cons, within_cons, fieldOf?_around, fieldOf?_around]
          rcases f.entry?_entries name with ⟨hkey, -⟩ | hother
          · exact absurd hkey (key_ne_of_isAside hname
              (hfs.subset List.mem_cons_self))
          · exact hother _ _

theorem fieldOf_eq (h : p.Twin x y p.inner v w) {name : String}
    (hname : isAside name = true) :
    (p.fill x).fieldOf v name = (p.fill y).fieldOf w name := by
  unfold Document.fieldOf
  rw [h.fieldOf?_eq hname]

/-- The same keys lead from twins to twins. -/
theorem follow {keys : List (List Char)} (h : p.Twin x y frames v w) :
    Option.Rel (p.Twin x y frames) ((p.fill x).follow keys v)
      ((p.fill y).follow keys w) := by
  induction keys generalizing v w with
  | nil => exact .some h
  | cons key rest ih =>
      exact Steps.rel_bind (h.fieldOf? _) fun _ _ hfound => ih hfound

/-- Side by side, two entries have the same key and twins under it. -/
def Entry (p : Place) (x y : Value) (e e' : Value × Value) : Prop :=
  e.1 = e'.1 ∧ p.Twin x y p.inner e.2 e'.2

theorem entries_refl (entries : List (Value × Value)) :
    List.Forall₂ (Entry p x y) entries entries :=
  List.forall₂_same.mpr fun _ _ => ⟨rfl, .same _⟩

/-- A frame around twins has such entries. -/
theorem entries_around (f : Frame) (h : p.Twin x y p.inner v w) :
    List.Forall₂ (Entry p x y) (f.entries v) (f.entries w) :=
  List.rel_append (entries_refl _) (.cons ⟨rfl, h⟩ (entries_refl _))

end Twin

/-- The document has twins under a name. -/
theorem twin_entry (name : String) :
    Option.Rel (p.Twin x y (p.path :: p.inner))
      (Value.entry? name (p.fill x).entries)
      (Value.entry? name (p.fill y).entries) := by
  show Option.Rel _ (Value.entry? name (p.root.entries (p.paths x)))
    (Value.entry? name (p.root.entries (p.paths y)))
  rcases p.root.entry?_entries name with ⟨-, hfound⟩ | hother
  · rw [hfound, hfound]
    exact .some (.around List.suffix_rfl)
  · rw [hother (p.paths x) (p.paths y)]
    exact Steps.rel_refl .same _

/-- Keys lead from the document to twins inside of the paths, if there is one
key at least. -/
theorem twin_follow_root (keys : List (List Char)) (hne : keys ≠ []) :
    Option.Rel (p.Twin x y (p.path :: p.inner))
      ((p.fill x).follow keys (p.fill x).web.root)
      ((p.fill y).follow keys (p.fill y).web.root) := by
  cases keys with
  | nil => exact absurd rfl hne
  | cons key rest =>
      exact Steps.rel_bind (twin_entry _) fun _ _ h => h.follow

/-- A reference leads to twins inside of the paths, or nowhere in both
documents. -/
theorem twin_resolve? (ref : Value) :
    Option.Rel (p.Twin x y (p.path :: p.inner)) ((p.fill x).resolve? ref)
      ((p.fill y).resolve? ref) := by
  have htarget : ∀ {v w}, p.Twin x y (p.path :: p.inner) v w →
      Option.Rel (p.Twin x y (p.path :: p.inner))
        (if v.isMap then some v else none)
        (if w.isMap then some w else none) := by
    intro v w h
    rw [h.isMap]
    split
    · exact .some h
    · exact .none
  unfold resolve?
  refine Steps.rel_bind (Steps.rel_refl Eq.refl ref.text?) ?_
  rintro s _ rfl
  refine Steps.rel_bind (Steps.rel_refl Eq.refl (Text.after? _ _)) ?_
  rintro path _ rfl
  exact Steps.rel_bind (twin_follow_root _ (Text.splitAt_ne_nil _))
    fun _ _ h => htarget h

-- ================================================================ lists

/-- Two items of lists of parameters are the same, or they are those in the
place. -/
def Item (x y a b : Value) : Prop := a = b ∨ a = x ∧ b = y

/-- Side by side, a list has the same items as itself. -/
theorem items_refl (items : List Value) :
    List.Forall₂ (Item x y) items items :=
  List.forall₂_same.mpr fun _ _ => Or.inl rfl

/-- Twins list the same parameters, but for those in the place. -/
theorem paired_items (h : p.Twin x y p.inner v w) :
    Steps.Paired (List.Forall₂ (Item x y))
      (itemsOf ((p.fill x).listing v)) (itemsOf ((p.fill y).listing w)) := by
  have hlist := h.fieldOf "parameters"
  unfold listing orElse
  rw [← hlist.isTruthy, look_fill y x]
  split
  · generalize (p.fill x).fieldOf v "parameters" = a at hlist ⊢
    generalize (p.fill y).fieldOf w "parameters" = b at hlist ⊢
    cases hlist with
    | same => exact .refl items_refl _
    | @around fs =>
        cases fs with
        | nil =>
            exact .ok (List.rel_append (items_refl _)
              (.cons (Or.inr ⟨rfl, rfl⟩) (items_refl _)))
        | cons f fs =>
            -- the items of a mapping are its keys
            have hkeys : ∀ u, itemsOf ((p.fill x).look (within (f :: fs)
                (p.listed u)))
                  = .ok (f.before.map (·.1) ++ f.key :: f.after.map (·.1)) :=
              fun u => congrArg Except.ok (f.keys_entries _)
            rw [hkeys x, hkeys y]
            exact .refl items_refl _
  · exact .refl items_refl _

-- =========================================================== operations

/-- The operations have the same path and the same verb, and their items and
bodies are twins. -/
structure TwinOperation (p : Place) (x y : Value) (op op' : Operation) :
    Prop where
  path : op.path = op'.path
  verb : op.verb = op'.verb
  item : p.Twin x y p.inner op.item op'.item
  body : p.Twin x y p.inner op.body op'.body

/-- The operation under an entry of a path item, if there is one. -/
def operationAt? (path item : Value) (e : Value × Value) : Option Operation :=
  (verb? e.1).bind fun verb =>
    if e.2.isMap then some ⟨path, item, verb, e.2⟩ else none

theorem itemOperations_of_look {d : Document} {path item : Value}
    {entries : List (Value × Value)} (h : d.look item = .map entries) :
    d.itemOperations path item
      = entries.filterMap (operationAt? path item) := by
  unfold itemOperations
  rw [h]
  refine congrArg (List.filterMap · entries) (funext fun e => ?_)
  obtain ⟨key, body⟩ := e
  unfold operationAt?
  dsimp only
  cases verb? key <;> rfl

/-- Twins have the same operations as path items. -/
theorem twin_itemOperations (path : Value) (h : p.Twin x y p.inner v w) :
    List.Forall₂ (p.TwinOperation x y) ((p.fill x).itemOperations path v)
      ((p.fill y).itemOperations path w) := by
  have hentry : ∀ e e', Twin.Entry p x y e e' →
      Option.Rel (p.TwinOperation x y) (operationAt? path v e)
        (operationAt? path w e') := by
    rintro ⟨key, body⟩ ⟨_, body'⟩ ⟨rfl, hbody⟩
    refine Steps.rel_bind (Steps.rel_refl Eq.refl (verb? key)) ?_
    rintro verb _ rfl
    rw [hbody.isMap]
    split
    · exact .some ⟨rfl, rfl, h, hbody⟩
    · exact .none
  cases h with
  | same v =>
      cases hlook : (p.fill x).look v with
      | map entries =>
          rw [itemOperations_of_look hlook,
            itemOperations_of_look (d := p.fill y) hlook]
          exact List.rel_filterMap hentry (Twin.entries_refl _)
      | _ =>
          unfold itemOperations
          rw [look_fill y x, hlook]
          exact .nil
  | @around fs hfs =>
      cases fs with
      | nil => exact .nil
      | cons f fs =>
          rw [within_cons, within_cons, itemOperations_of_look rfl,
            itemOperations_of_look rfl]
          exact List.rel_filterMap hentry (Twin.entries_around f
            (.around ((List.suffix_cons f fs).trans hfs)))

/-- Twins under a path have the same operations. -/
theorem twin_pathOperations {e e' : Value × Value}
    (h : Twin.Entry p x y e e') :
    List.Forall₂ (p.TwinOperation x y) ((p.fill x).itemOperations e.1 e.2)
      ((p.fill y).itemOperations e'.1 e'.2) :=
  h.1 ▸ twin_itemOperations e.1 h.2

/-- The two documents have the same operations, or none both. -/
theorem paired_operations (p : Place) (x y : Value) :
    Steps.Paired (List.Forall₂ (p.TwinOperation x y)) (p.fill x).operations
      (p.fill y).operations := by
  rcases p.root.entry?_entries "paths" with ⟨-, hfound⟩ | hother
  · have hmade : ∀ u, (p.fill u).operations = .ok
        ((p.path.entries (within p.inner (p.listed u))).flatMap
          fun e => (p.fill u).itemOperations e.1 e.2) := by
      intro u
      have hfield : (p.fill u).field "paths" = p.paths u :=
        congrArg (fun found => found.getD .null) (hfound (p.paths u))
      have htruthy : (p.paths u).isTruthy = true :=
        p.path.isTruthy_around _
      unfold operations
      rw [hfield]
      dsimp only
      rw [htruthy]
      rfl
    rw [hmade, hmade]
    exact .ok (List.rel_flatMap
      (Twin.entries_around p.path (.around List.suffix_rfl))
      fun _ _ h => twin_pathOperations h)
  · have hfield : (p.fill x).field "paths" = (p.fill y).field "paths" :=
      congrArg (fun found => found.getD .null) (hother _ _)
    unfold operations
    rw [hfield]
    dsimp only
    rw [look_fill x y]
    split
    · exact .ok .nil
    · split
      · exact .ok (List.rel_flatMap (Twin.entries_refl _)
          fun _ _ h => twin_pathOperations h)
      · exact .error _

end Place

end Document

end Toolsmith
