/-
A parameter of an operation that its path item declares, too. What stands for
a declaration is the slot that it takes: its name, read as a text, and its
location, the query if it gives none. An operation's own declaration of a slot
overrides the one of the path item, and where neither list declares a slot
twice, every slot is taken once in the end.

So it is only if both declarations are written alike. Overriding compares the
name and the location as they are written, before the query is put in for a
location that is left out. A parameter that is declared with `query` in one of
the lists and without a location in the other one is then there twice.
`overrides_iff` says that this is what can go wrong, next to a token of the
path that is declared over again in octets.
-/
import Toolsmith.Proofs.Document.Declared

namespace Toolsmith

-- ================================================================ keys

/-- Scaling keeps what is zero, and makes nothing else zero. -/
theorem Binary64.fst_scaled_eq_zero_iff {num : Nat} {exponent : Int} :
    (scaled num 1 exponent).1 = 0 ↔ num = 0 := by
  unfold scaled
  split
  · exact Nat.mul_eq_zero.trans
      (or_iff_left (Nat.ne_of_gt (Nat.pow_pos (by decide))))
  · exact Iff.rfl

/-- A double is the integer zero exactly if it is zero. -/
theorem Binary64.toInt?_eq_zero_iff {x : Binary64} :
    x.toInt? = some 0 ↔ x.isZero = true := by
  cases x with
  | nan => exact ⟨fun h => (by cases h), fun h => (by cases h)⟩
  | infinity s => exact ⟨fun h => (by cases h), fun h => (by cases h)⟩
  | finite s m e =>
      have hzero : (finite s m e).isZero = true ↔ m = 0 := by
        cases m <;> simp [isZero]
      have hnum : (scaled m 1 (-e)).1 = 0 ↔ m = 0 := fst_scaled_eq_zero_iff
      rw [hzero, ← hnum]
      unfold toInt? toRatio
      dsimp only
      generalize (scaled m 1 (-e)).1 = n
      generalize (scaled m 1 (-e)).2 = b
      have hsigned : (if s then -(n : Int) else n) = 0 ↔ n = 0 := by
        split <;> omega
      rw [← hsigned]
      generalize (if s then -(n : Int) else n) = a
      constructor
      · intro h
        split at h
        next hdvd =>
          rw [← Int.mul_ediv_add_emod a b, Option.some.inj h,
            beq_iff_eq.mp hdvd, Int.mul_zero, Int.add_zero]
        next => cases h
      · rintro rfl
        simp

namespace Value

/-- Keys that are one are one number, one value, or two moments. -/
theorem sameKey_cases {v w : Value} (h : v.sameKey w = true) :
    (∃ n, v.keyNumber? = some n ∧ w.keyNumber? = some n)
      ∨ v = w ∨ ∃ t u, v = .moment t ∧ w = .moment u := by
  unfold sameKey at h
  split at h
  next x y hv hw => exact Or.inl ⟨_, hv, by rw [hw, beq_iff_eq.mp h]⟩
  next x y _ hv hw => exact Or.inl ⟨_, hv, by rw [hw, beq_iff_eq.mp h]⟩
  next =>
    refine Or.inr ?_
    split at h
    · exact Or.inl rfl
    · exact Or.inl (congrArg text (beq_iff_eq.mp h))
    · exact Or.inl (congrArg bytes (beq_iff_eq.mp h))
    · exact Or.inl (congrArg date (beq_iff_eq.mp h))
    · exact Or.inr ⟨_, _, rfl, rfl⟩
    · cases h
  next => cases h

/-- A number counts as there unless it is zero. -/
theorem isTruthy_of_keyNumber? {v : Value} {n : KeyNumber}
    (h : v.keyNumber? = some n) : v.isTruthy = (n != .whole 0) := by
  unfold keyNumber? at h
  split at h
  next b => cases h; cases b <;> decide
  next k =>
    cases h
    rw [isTruthy, Bool.eq_iff_iff, bne_iff_ne, bne_iff_ne, ne_eq, ne_eq,
      KeyNumber.whole.injEq]
  next x =>
    have hzero : x.isZero = true ↔ n = .whole 0 := by
      rw [← Binary64.toInt?_eq_zero_iff]
      split at h
      next k hk => cases h; simp [hk]
      next hk => cases h; simp [hk]
    rw [isTruthy, Bool.eq_iff_iff, Bool.not_eq_true', bne_iff_ne, ne_eq,
      ← hzero, Bool.not_eq_true]
  next => cases h

/-- Keys that are one are there or missing together. -/
theorem isTruthy_of_sameKey {v w : Value} (h : v.sameKey w = true) :
    v.isTruthy = w.isTruthy := by
  rcases sameKey_cases h with ⟨n, hv, hw⟩ | rfl | ⟨_, _, rfl, rfl⟩
  · rw [isTruthy_of_keyNumber? hv, isTruthy_of_keyNumber? hw]
  · rfl
  · rfl

/-- Keys that are one are read as the same text, if they are read at all. -/
theorem text_of_sameKey {v w : Value} (h : v.sameKey w = true) :
    Shape.text v = Shape.text w ∧ v.text? = w.text? := by
  have hnumber : ∀ {u : Value} {n : KeyNumber}, u.keyNumber? = some n →
      Shape.text u = .complain .stringType ∧ u.text? = none := by
    intro u n hu
    cases u <;> first | exact ⟨rfl, rfl⟩ | cases hu
  rcases sameKey_cases h with ⟨n, hv, hw⟩ | rfl | ⟨_, _, rfl, rfl⟩
  · rw [(hnumber hv).1, (hnumber hv).2, (hnumber hw).1, (hnumber hw).2]
    exact ⟨rfl, rfl⟩
  · exact ⟨rfl, rfl⟩
  · exact ⟨rfl, rfl⟩

end Value

/-- The name and the location of a parameter. -/
def Param.slot (p : Param) : String × Location := (p.name, p.location)

namespace Document

variable {d : Document}

-- =============================================================== slots

/-- The slot that a declaration takes: its name as a text and its location,
the query if it gives none. -/
def slot? (d : Document) (x : Value) : Option (String × Location) :=
  if x.isMap then
    match Shape.text (d.fieldOf x "name"),
      declaredLocation? (d.fieldOf x "in") with
    | .ok name, some location => some (name, location)
    | _, _ => none
  else none

theorem isMap_of_slot? {x : Value} {slot : String × Location}
    (h : d.slot? x = some slot) : x.isMap = true := by
  by_contra hmap
  rw [slot?, if_neg hmap] at h
  cases h

/-- A parameter has the slot of the declaration that makes it. -/
theorem slot?_of_givenBy {tokens : List String} {x : Value} {p : Param}
    (hdeclares : d.Declares tokens x) (hgiven : d.GivenBy x p) :
    d.slot? x = some p.slot := by
  rw [slot?, if_pos hdeclares.isMap, hgiven.name, hgiven.location]
  rfl

/-- Declarations that are compared as one take one slot. -/
theorem slot?_of_sameIdentity {x y : Value} (hx : x.isMap = true)
    (hy : y.isMap = true)
    (h : sameIdentity (d.named x) (d.named y) = true) :
    d.slot? x = d.slot? y := by
  obtain ⟨hname, hin⟩ : (d.fieldOf x "name").sameKey (d.fieldOf y "name")
      = true ∧ (d.fieldOf x "in").sameKey (d.fieldOf y "in") = true :=
    Bool.and_eq_true_iff.mp h
  have hlocation : declaredLocation? (d.fieldOf x "in")
      = declaredLocation? (d.fieldOf y "in") := by
    unfold declaredLocation?
    rw [Value.isTruthy_of_sameKey hin, (Value.text_of_sameKey hin).2]
  rw [slot?, slot?, if_pos hx, if_pos hy, hlocation,
    (Value.text_of_sameKey hname).1]

/-- Where no slot is taken twice, a slot tells its declaration. -/
theorem eq_of_slot? {xs : List Value} (h : (xs.filterMap d.slot?).Nodup)
    {x y : Value} (hx : x ∈ xs) (hy : y ∈ xs) {slot : String × Location}
    (hxslot : d.slot? x = some slot) (hyslot : d.slot? y = some slot) :
    x = y := by
  induction xs with
  | nil => cases hx
  | cons z rest ih =>
      cases hz : d.slot? z with
      | none =>
          rw [List.filterMap_cons_none hz] at h
          have hrest : ∀ {w}, w ∈ z :: rest → d.slot? w = some slot →
              w ∈ rest := by
            intro w hw hslot
            rcases List.mem_cons.mp hw with rfl | hw
            · rw [hz] at hslot
              cases hslot
            · exact hw
          exact ih h (hrest hx hxslot) (hrest hy hyslot)
      | some taken =>
          rw [List.filterMap_cons_some hz, List.nodup_cons] at h
          have hfirst : ∀ {w}, w ∈ rest → d.slot? w = some slot →
              d.slot? z ≠ some slot := by
            intro w hw hslot heq
            cases hz.symm.trans heq
            exact h.1 (List.mem_filterMap.mpr ⟨w, hw, hslot⟩)
          rcases List.mem_cons.mp hx with rfl | hx'
          · rcases List.mem_cons.mp hy with rfl | hy'
            · rfl
            · exact absurd hxslot (hfirst hy' hyslot)
          · rcases List.mem_cons.mp hy with rfl | hy'
            · exact absurd hyslot (hfirst hx' hxslot)
            · exact ih h.2 hx' hy'

-- ========================================================= composition

/-- In a list of declarations no slot is taken twice. -/
def TakesOnce (d : Document) (xs : List Value) : Prop :=
  (xs.filterMap d.slot?).Nodup

instance (xs : List Value) : Decidable (d.TakesOnce xs) :=
  inferInstanceAs (Decidable (xs.filterMap d.slot?).Nodup)

/-- What a path item and an operation both declare, they write alike. -/
def WritesAlike (d : Document) (tokens : List String) (op : Operation) :
    Prop :=
  ∀ x ∈ d.listed op.item, d.Declares tokens x →
    ∀ slot, d.slot? x = some slot →
      ∀ y ∈ d.listed op.body, d.slot? y = some slot →
        sameIdentity (d.named x) (d.named y) = true

/-- No declaration that stands for an operation is one of a token in
octets. -/
def LeavesTokens (d : Document) (tokens : List String) (op : Operation) :
    Prop :=
  ∀ x ∈ d.standing op, d.Declares tokens x →
    ∀ token ∈ tokens, ¬ d.Respells token x

/-- What an operation takes over from its path item. -/
def takenOver (d : Document) (op : Operation) : List Value :=
  (d.listed op.item).filter fun x => !d.isOverridden (d.listed op.body) x

/-- The parameters of an endpoint are those of the tokens of its path, those
that are taken over from its path item, and those of its own. -/
structure Composed (d : Document) (op : Operation) (tokens : List String)
    (inherited own params : List Param) : Prop where
  params : params = tokens.map tokenParam ++ (inherited ++ own)
  inherited : List.Forall₂ d.GivenBy
    ((d.takenOver op).filter fun x => d.Declares tokens x) inherited
  own : List.Forall₂ d.GivenBy
    ((d.listed op.body).filter fun x => d.Declares tokens x) own

/-- No slot is taken twice among the parameters, and where the operation
declares one, nothing in it is taken over. -/
structure Overrides (d : Document) (op : Operation)
    (inherited params : List Param) : Prop where
  nodup : (params.map Param.slot).Nodup
  apart : ∀ p ∈ inherited,
    p.slot ∉ (d.listed op.body).filterMap d.slot?

variable {op : Operation} {tokens : List String}

/-- The declarations that make parameters take their slots. -/
theorem slots_of_givenBy {xs : List Value} {params : List Param}
    (h : List.Forall₂ d.GivenBy (xs.filter fun x => d.Declares tokens x)
      params) :
    (xs.filter fun x => d.Declares tokens x).filterMap d.slot?
      = params.map Param.slot :=
  Steps.filterMap_of_forall₂ ((forall₂_declares_of_givenBy h).imp
    fun _ _ hboth => slot?_of_givenBy hboth.1 hboth.2)

/-- So do those of a part of a list, each once if the list does. -/
theorem nodup_slots_of_givenBy {xs ys : List Value} {params : List Param}
    (hsub : xs.Sublist ys) (honce : d.TakesOnce ys)
    (h : List.Forall₂ d.GivenBy (xs.filter fun x => d.Declares tokens x)
      params) : (params.map Param.slot).Nodup := by
  rw [← slots_of_givenBy h]
  exact honce.sublist ((List.filter_sublist.trans hsub).filterMap d.slot?)

/-- What is taken over keeps away from the slots of the operation exactly if
both write alike what they both declare. -/
theorem apart_iff {inherited : List Param}
    (hbody : d.TakesOnce (d.listed op.body))
    (h : List.Forall₂ d.GivenBy
      ((d.takenOver op).filter fun x => d.Declares tokens x) inherited) :
    (∀ p ∈ inherited, p.slot ∉ (d.listed op.body).filterMap d.slot?)
      ↔ d.WritesAlike tokens op := by
  have hslots : ∀ {slot}, slot ∈ inherited.map Param.slot
      ↔ ∃ x ∈ d.listed op.item, d.isOverridden (d.listed op.body) x = false
        ∧ d.Declares tokens x ∧ d.slot? x = some slot := by
    intro slot
    rw [← slots_of_givenBy h, List.mem_filterMap]
    simp only [takenOver, List.mem_filter, Bool.not_eq_true',
      decide_eq_true_eq, and_assoc]
  constructor
  · intro hapart x hx hdeclares slot hslot y hy hyslot
    -- the own declaration that overrides the other one is the only one there
    cases hover : d.isOverridden (d.listed op.body) x with
    | false =>
        obtain ⟨p, hp, rfl⟩ := List.mem_map.mp
          (hslots.mpr ⟨x, hx, hover, hdeclares, hslot⟩)
        exact absurd (List.mem_filterMap.mpr ⟨y, hy, hyslot⟩) (hapart p hp)
    | true =>
        obtain ⟨hmap, hany⟩ := Bool.and_eq_true_iff.mp hover
        obtain ⟨z, hz, hsame⟩ := List.any_eq_true.mp hany
        obtain ⟨hz, hzmap⟩ := List.mem_filter.mp hz
        have hzslot : d.slot? z = some slot :=
          (slot?_of_sameIdentity hmap hzmap hsame).symm.trans hslot
        exact eq_of_slot? hbody hz hy hzslot hyslot ▸ hsame
  · intro halike p hp hmem
    obtain ⟨x, hx, hover, hdeclares, hslot⟩ :=
      hslots.mp (List.mem_map_of_mem hp)
    obtain ⟨y, hy, hyslot⟩ := List.mem_filterMap.mp hmem
    have hsame := halike x hx hdeclares p.slot hslot y hy hyslot
    have htrue : d.isOverridden (d.listed op.body) x = true :=
      Bool.and_eq_true_iff.mpr ⟨hdeclares.isMap, List.any_eq_true.mpr
        ⟨y, List.mem_filter.mpr ⟨hy, isMap_of_slot? hyslot⟩, hsame⟩⟩
    rw [hover] at htrue
    cases htrue

/-- The parameters in front have different slots. -/
theorem nodup_slots_tokenParam (h : tokens.Nodup) :
    ((tokens.map tokenParam).map Param.slot).Nodup := by
  rw [List.map_map]
  exact h.map fun _ _ heq => congrArg Prod.fst heq

/-- The others keep away from these exactly if no token is declared over
again in octets. -/
theorem apart_tokens_iff {xs : List Value} {params : List Param}
    (h : List.Forall₂ d.GivenBy (xs.filter fun x => d.Declares tokens x)
      params) :
    (∀ a ∈ (tokens.map tokenParam).map Param.slot,
        ∀ b ∈ params.map Param.slot, a ≠ b)
      ↔ ∀ x ∈ xs, d.Declares tokens x →
        ∀ token ∈ tokens, ¬ d.Respells token x := by
  have htoken : ∀ token ∈ tokens,
      (∀ b ∈ params.map Param.slot, (tokenParam token).slot ≠ b)
        ↔ ∀ x ∈ xs, d.Declares tokens x → ¬ d.Respells token x := by
    intro token htoken
    rw [← forall_not_standsFor_iff htoken h, List.forall_mem_map]
    refine forall₂_congr fun p _ => not_congr ?_
    rw [standsFor_iff]
    exact ⟨fun heq => ⟨(congrArg Prod.snd heq).symm,
      (congrArg Prod.fst heq).symm⟩, fun ⟨hl, hn⟩ => by
        rw [Param.slot, Param.slot, hl, hn]; rfl⟩
  simp only [List.forall_mem_map]
  constructor
  · intro hall x hx hdeclares token ht
    exact (htoken token ht).mp
      (List.forall_mem_map.mpr (hall token ht)) x hx hdeclares
  · intro hall token ht
    exact List.forall_mem_map.mp ((htoken token ht).mpr
      fun x hx hdeclares => hall x hx hdeclares token ht)

/-- Where neither list declares a slot twice, the operation overrides its path
item exactly if both write alike what they both declare, and no token is
declared over again in octets. -/
theorem overrides_iff {inherited own params : List Param}
    (htokens : tokens.Nodup)
    (hcomposed : d.Composed op tokens inherited own params)
    (hitem : d.TakesOnce (d.listed op.item))
    (hbody : d.TakesOnce (d.listed op.body)) :
    d.Overrides op inherited params
      ↔ d.WritesAlike tokens op ∧ d.LeavesTokens tokens op := by
  obtain ⟨hparams, hinherited, hown⟩ := hcomposed
  have hfurther : List.Forall₂ d.GivenBy
      ((d.standing op).filter fun x => d.Declares tokens x)
      (inherited ++ own) := by
    rw [standing, List.filter_append]
    exact List.rel_append hinherited hown
  have hfront := apart_tokens_iff hfurther
  have hback := apart_iff hbody hinherited
  constructor
  · rintro ⟨hnodup, hapart⟩
    rw [hparams, List.map_append, List.nodup_append] at hnodup
    exact ⟨hback.mp hapart, hfront.mp hnodup.2.2⟩
  · rintro ⟨halike, hleaves⟩
    have hapart := hback.mpr halike
    refine ⟨?_, hapart⟩
    rw [hparams, List.map_append, List.nodup_append]
    refine ⟨nodup_slots_tokenParam htokens, ?_, hfront.mpr hleaves⟩
    rw [List.map_append, List.nodup_append]
    refine ⟨nodup_slots_of_givenBy List.filter_sublist hitem hinherited,
      nodup_slots_of_givenBy (List.Sublist.refl _) hbody hown, ?_⟩
    rintro _ hmem _ hmem' rfl
    obtain ⟨p, hp, hslot⟩ := List.mem_map.mp hmem
    rw [← slots_of_givenBy hown] at hmem'
    exact hapart p hp (hslot ▸ (List.filter_sublist.filterMap d.slot?).subset
      hmem')

/-- The parameters of an endpoint are composed of the three. -/
theorem composed_of_drawnFrom {e : Endpoint} (h : DrawnFrom d op e) :
    ∃ inherited own, d.Composed op (distinctTokens e.path) inherited own
      e.parameters := by
  obtain ⟨declared, hdeclared, hparams⟩ := h.parameters
  obtain ⟨further, hparams, hfurther⟩ := forall₂_of_parameters hparams
  rw [declaredParameters_eq_ok hdeclared, standing, List.filter_append]
    at hfurther
  obtain ⟨inherited, own, rfl, hinherited, hown⟩ :=
    Steps.exists_of_forall₂_append hfurther
  exact ⟨inherited, own, hparams, hinherited, hown⟩

/-- In a catalog, every endpoint has the parameters of its path, those that
are taken over from the path item, and those of the operation itself. If
neither of the two declares a slot twice, then no slot is taken twice in the
end, and nothing is taken over where the operation has a declaration of its
own, exactly if both write alike what they both declare and no token of the
path is declared over again in octets. -/
theorem catalog_overrides {endpoints : List Endpoint}
    {reports : List Log.Entry} (h : d.catalog = .ok (endpoints, reports)) :
    ∃ ops, d.operations = .ok ops
      ∧ List.Forall₂ (fun op e => ∃ inherited own,
        d.Composed op (distinctTokens e.path) inherited own e.parameters
          ∧ (d.TakesOnce (d.listed op.item) →
            d.TakesOnce (d.listed op.body) →
              (d.Overrides op inherited e.parameters
                ↔ d.WritesAlike (distinctTokens e.path) op
                  ∧ d.LeavesTokens (distinctTokens e.path) op)))
        ops endpoints := by
  obtain ⟨ops, hops, hdrawn⟩ := drawnFrom_of_catalog h
  refine ⟨ops, hops, hdrawn.imp fun op e hfrom => ?_⟩
  obtain ⟨inherited, own, hcomposed⟩ := composed_of_drawnFrom hfrom
  exact ⟨inherited, own, hcomposed,
    overrides_iff (nodup_firstOccurrences _) hcomposed⟩

/-- A path whose item declares `x` with `query`, `y` without a location, its
token once more, and `z` by a reference. -/
def shadowed : Value :=
  .map [(.text "parameters", .list
      [declaring (.text "x") (.text "query"), declaring (.text "y") .null,
       declaring (.text "id") (.text "path"),
       .map [(.text "$ref", .text "#/z")]]),
    (.text "get", .map [(.text "parameters", .list
      [declaring (.text "y") .null, declaring (.text "x") (.text "query")])]),
    (.text "post", .map [(.text "parameters", .list
      [declaring (.text "y") .null, declaring (.text "x") .null])])]

/-- A document with this path. -/
def shadowing : Document :=
  let entries : List (Value × Value) :=
    [(.text "paths", .map [(.text "/a/\x7bid\x7d", shadowed)]),
     (.text "z", declaring (.text "z") (.text "header"))]
  ⟨.ofValue (.map entries), entries⟩

/-- What its operations and their parameters are, and that no list takes a
slot twice. -/
theorem shadowing_runs :
    ∃ endpoints reports ops, shadowing.catalog = .ok (endpoints, reports)
      ∧ shadowing.operations = .ok ops
      ∧ (∀ op ∈ ops, shadowing.TakesOnce (shadowing.listed op.item)
        ∧ shadowing.TakesOnce (shadowing.listed op.body))
      ∧ endpoints.map (fun e => e.parameters.map Param.slot)
        = [[("id", .path), ("z", .header), ("y", .query), ("x", .query)],
           [("id", .path), ("x", .query), ("z", .header), ("y", .query),
            ("x", .query)]] := by
  have hcatalog : shadowing.catalog.toOption.map
      (·.1.map fun e => e.parameters.map Param.slot) = some
        [[("id", .path), ("z", .header), ("y", .query), ("x", .query)],
         [("id", .path), ("x", .query), ("z", .header), ("y", .query),
          ("x", .query)]] := by
    decide +kernel
  have hlists : shadowing.operations.toOption.any (·.all fun op =>
      decide (shadowing.TakesOnce (shadowing.listed op.item))
        && decide (shadowing.TakesOnce (shadowing.listed op.body)))
          = true := by
    decide +kernel
  obtain ⟨⟨endpoints, reports⟩, hmade, hslots⟩ :=
    Option.map_eq_some_iff.mp hcatalog
  obtain ⟨ops, hops, hall⟩ := (Option.any_eq_true _ _).mp hlists
  refine ⟨endpoints, reports, ops, Steps.eq_ok_of_toOption hmade,
    Steps.eq_ok_of_toOption hops, fun op hop => ?_, hslots⟩
  obtain ⟨hitem, hbody⟩ :=
    Bool.and_eq_true_iff.mp (List.all_eq_true.mp hall op hop)
  exact ⟨of_decide_eq_true hitem, of_decide_eq_true hbody⟩

/-- The first operation writes `x` and `y` as its path item does and overrides
both; the second one leaves out the location of `x` and does not. -/
theorem catalog_overrides_shadowing :
    ∃ endpoints reports ops, shadowing.catalog = .ok (endpoints, reports)
      ∧ shadowing.operations = .ok ops
      ∧ List.Forall₂ (fun op e => ∃ inherited own,
        shadowing.Composed op (distinctTokens e.path) inherited own
            e.parameters
          ∧ (shadowing.Overrides op inherited e.parameters
            ↔ shadowing.WritesAlike (distinctTokens e.path) op
              ∧ shadowing.LeavesTokens (distinctTokens e.path) op))
        ops endpoints
      ∧ endpoints.map (fun e => decide (e.parameters.map Param.slot).Nodup)
        = [true, false] := by
  obtain ⟨endpoints, reports, ops, hcatalog, hops, honce, hslots⟩ :=
    shadowing_runs
  obtain ⟨ops', hops', hall⟩ := catalog_overrides hcatalog
  cases hops.symm.trans hops'
  refine ⟨endpoints, reports, ops, hcatalog, hops, ?_, ?_⟩
  · refine ((List.forall₂_and_left _ _).mpr ⟨honce, hall⟩).imp ?_
    rintro op e ⟨⟨hitem, hbody⟩, inherited, own, hcomposed, hiff⟩
    exact ⟨inherited, own, hcomposed, hiff hitem hbody⟩
  · have hdecide := congrArg (List.map fun slots => decide slots.Nodup) hslots
    rw [List.map_map] at hdecide
    exact hdecide.trans (by decide)

/-- An operation does not always override its path item: a location that only
one of them leaves out makes two parameters of one. -/
theorem not_forall_overrides :
    ¬ ∀ (d : Document) endpoints reports ops,
      d.catalog = .ok (endpoints, reports) → d.operations = .ok ops →
      List.Forall₂ (fun op e => d.TakesOnce (d.listed op.item) →
        d.TakesOnce (d.listed op.body) →
          (e.parameters.map Param.slot).Nodup) ops endpoints := by
  intro hall
  obtain ⟨endpoints, reports, ops, hcatalog, hops, honce, hslots⟩ :=
    shadowing_runs
  have hnodup : ∀ e ∈ endpoints, (e.parameters.map Param.slot).Nodup := by
    intro e he
    obtain ⟨op, hop, htaken⟩ := Steps.exists_of_mem_forall₂
      (hall _ _ _ _ hcatalog hops) he
    exact htaken (honce op hop).1 (honce op hop).2
  have hboth := List.forall_mem_map.mpr hnodup
  rw [hslots] at hboth
  exact absurd hboth (by decide)

end Document

end Toolsmith
