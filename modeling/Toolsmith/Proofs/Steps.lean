/-
Computations that can fail, taken apart: what a successful one has gone
through, and what makes one fail.
-/
import Mathlib.Data.List.Forall2
import Mathlib.Init

namespace Toolsmith.Steps

variable {ε α β : Type}

/-- Two steps succeed if the first does and the second does with its
answer. -/
theorem bind_eq_ok {x : Except ε α} {f : α → Except ε β} {b : β} :
    (x >>= f) = .ok b ↔ ∃ a, x = .ok a ∧ f a = .ok b := by
  cases x with
  | error e =>
      constructor
      · intro h; cases h
      · rintro ⟨_, h, _⟩; cases h
  | ok a =>
      constructor
      · intro h; exact ⟨a, rfl, h⟩
      · rintro ⟨_, ha, h⟩; cases ha; exact h

/-- Two steps fail if the first does, or the second with its answer. -/
theorem bind_eq_error {x : Except ε α} {f : α → Except ε β} {e : ε} :
    (x >>= f) = .error e
      ↔ x = .error e ∨ ∃ a, x = .ok a ∧ f a = .error e := by
  cases x with
  | error e' =>
      constructor
      · intro h; cases h; exact Or.inl rfl
      · rintro (h | ⟨_, h, _⟩)
        · cases h; rfl
        · cases h
  | ok a =>
      constructor
      · intro h; exact Or.inr ⟨a, rfl, h⟩
      · rintro (h | ⟨_, ha, h⟩)
        · cases h
        · cases ha; exact h

/-- A step with its answer changed succeeds if the step does. -/
theorem map_eq_ok {x : Except ε α} {f : α → β} {b : β} :
    x.map f = .ok b ↔ ∃ a, x = .ok a ∧ f a = b := by
  cases x with
  | error e =>
      constructor
      · intro h; cases h
      · rintro ⟨_, h, _⟩; cases h
  | ok a =>
      constructor
      · intro h; cases h; exact ⟨a, rfl, rfl⟩
      · rintro ⟨_, ha, rfl⟩; cases ha; rfl

/-- A step per item: all succeed, each with its own answer. -/
theorem forall₂_of_mapM {f : α → Except ε β} {xs : List α} :
    ∀ {ys : List β}, xs.mapM f = .ok ys →
      List.Forall₂ (fun x y => f x = .ok y) xs ys := by
  induction xs with
  | nil => intro ys h; cases h; exact List.Forall₂.nil
  | cons x rest ih =>
      intro ys h
      rw [List.mapM_cons] at h
      obtain ⟨y, hy, h⟩ := bind_eq_ok.mp h
      obtain ⟨more, hmore, h⟩ := bind_eq_ok.mp h
      cases h
      exact List.Forall₂.cons hy (ih hmore)

/-- Item by item over two lists, and on from the second one to a third. -/
theorem forall₂_trans {γ : Type} {R : α → β → Prop} {S : β → γ → Prop}
    {T : α → γ → Prop} (h : ∀ {a b c}, R a b → S b c → T a c)
    {xs : List α} {ys : List β} {zs : List γ} (hxy : List.Forall₂ R xs ys)
    (hyz : List.Forall₂ S ys zs) : List.Forall₂ T xs zs := by
  induction hxy generalizing zs with
  | nil =>
      cases hyz
      exact .nil
  | cons hab _ ih =>
      cases hyz with
      | cons hbc hrest => exact .cons (h hab hbc) (ih hrest)

/-- Item by item over two lists, every item of the second one belongs to one
of the first. -/
theorem exists_of_mem_forall₂ {R : α → β → Prop} {xs : List α} {ys : List β}
    (h : List.Forall₂ R xs ys) {y : β} (hy : y ∈ ys) : ∃ x ∈ xs, R x y := by
  induction h with
  | nil => cases hy
  | cons hxy _ ih =>
      rcases List.mem_cons.mp hy with rfl | hy
      · exact ⟨_, List.mem_cons_self, hxy⟩
      · obtain ⟨x, hx, h⟩ := ih hy
        exact ⟨x, List.mem_cons_of_mem _ hx, h⟩

/-- Item by item over two lists, what one says of its items the other says of
its own. -/
theorem forall_mem_iff_of_forall₂ {R : α → β → Prop} {P : α → Prop}
    {Q : β → Prop} (hR : ∀ {x y}, R x y → (P x ↔ Q y)) {xs : List α}
    {ys : List β} (h : List.Forall₂ R xs ys) :
    (∀ x ∈ xs, P x) ↔ ∀ y ∈ ys, Q y := by
  induction h with
  | nil => exact ⟨fun _ _ h => (by cases h), fun _ _ h => (by cases h)⟩
  | cons hxy _ ih =>
      rw [List.forall_mem_cons, List.forall_mem_cons, hR hxy, ih]

/-- Every answer of a step per item is the answer for one of the items. -/
theorem exists_of_mem_mapM {f : α → Except ε β} {xs : List α}
    {ys : List β} (h : xs.mapM f = .ok ys) {y : β} (hy : y ∈ ys) :
    ∃ x ∈ xs, f x = .ok y :=
  exists_of_mem_forall₂ (forall₂_of_mapM h) hy

/-- A step per item, all of which succeed. -/
theorem mapM_eq_ok {f : α → Except ε β} {g : α → β} {xs : List α}
    (h : ∀ x ∈ xs, f x = .ok (g x)) : xs.mapM f = .ok (xs.map g) := by
  induction xs with
  | nil => rfl
  | cons x rest ih =>
      obtain ⟨hx, hrest⟩ := List.forall_mem_cons.mp h
      rw [List.mapM_cons, hx, ih hrest]
      rfl

/-- Steps that are the same for every item are the same for all of them. -/
theorem mapM_congr {f g : α → Except ε β} {xs : List α}
    (h : ∀ x ∈ xs, f x = g x) : xs.mapM f = xs.mapM g := by
  induction xs with
  | nil => rfl
  | cons x rest ih =>
      obtain ⟨hx, hrest⟩ := List.forall_mem_cons.mp h
      rw [List.mapM_cons, List.mapM_cons, hx, ih hrest]

/-- A step per item that has come to an end has given the known answers. -/
theorem eq_map_of_mapM {f : α → Except ε β} {g : α → β} {xs : List α}
    (h : ∀ x b, f x = .ok b → b = g x) :
    ∀ {ys : List β}, xs.mapM f = .ok ys → ys = xs.map g := by
  induction xs with
  | nil => intro ys hys; cases hys; rfl
  | cons x rest ih =>
      intro ys hys
      rw [List.mapM_cons] at hys
      obtain ⟨y, hy, hys⟩ := bind_eq_ok.mp hys
      obtain ⟨more, hmore, hys⟩ := bind_eq_ok.mp hys
      cases hys
      rw [h x y hy, ih hmore, List.map_cons]

/-- A step per item, some of whose answers are left out: those that are kept
belong to the items that count, one for one and in order. -/
theorem forall₂_filter_of_mapM {f : α → Except ε (Option β)}
    {counts : α → Bool} {R : α → β → Prop}
    (hnone : ∀ x, f x = .ok none → counts x = false)
    (hsome : ∀ x y, f x = .ok (some y) → counts x = true ∧ R x y)
    {xs : List α} {found : List (Option β)} (h : xs.mapM f = .ok found) :
    List.Forall₂ R (xs.filter counts) (found.filterMap id) := by
  have hall := forall₂_of_mapM h
  clear h
  induction hall with
  | nil => exact .nil
  | @cons x answer _ _ hx _ ih =>
      cases answer with
      | none =>
          rw [List.filter_cons, hnone x hx]
          exact ih
      | some y =>
          obtain ⟨hcounts, hR⟩ := hsome x y hx
          rw [List.filter_cons, hcounts]
          exact .cons hR ih

/-- Item by item over a list in two parts, the other list has two parts,
too. -/
theorem exists_of_forall₂_append {R : α → β → Prop} {xs xs' : List α} :
    ∀ {ys : List β}, List.Forall₂ R (xs ++ xs') ys →
      ∃ zs zs', ys = zs ++ zs' ∧ List.Forall₂ R xs zs
        ∧ List.Forall₂ R xs' zs' := by
  induction xs with
  | nil => exact fun h => ⟨[], _, rfl, .nil, h⟩
  | cons x rest ih =>
      intro ys h
      cases h with
      | cons hx hrest =>
          obtain ⟨zs, zs', rfl, hzs, hzs'⟩ := ih hrest
          exact ⟨_ :: zs, zs', rfl, .cons hx hzs, hzs'⟩

/-- Item by item over two lists, what can be read off the items of one is what
the items of the other have. -/
theorem filterMap_of_forall₂ {γ : Type} {f : α → Option γ} {g : β → γ}
    {xs : List α} {ys : List β}
    (h : List.Forall₂ (fun x y => f x = some (g y)) xs ys) :
    xs.filterMap f = ys.map g := by
  induction h with
  | nil => rfl
  | cons hxy _ ih => rw [List.filterMap_cons_some hxy, List.map_cons, ih]

/-- A choice by a step per item that has come to an end is the choice by the
answers. -/
theorem filterM_eq_ok {f : α → Except ε Bool} {g : α → Bool} {xs ys : List α}
    (h : ∀ x b, f x = .ok b → b = g x) (hys : xs.filterM f = .ok ys) :
    ys = xs.filter g := by
  have haux : ∀ (xs kept zs : List α), List.filterAuxM f xs kept = .ok zs →
      zs = (xs.filter g).reverse ++ kept := by
    intro xs
    induction xs with
    | nil =>
        intro kept zs hzs
        cases hzs
        rfl
    | cons x rest ih =>
        intro kept zs hzs
        obtain ⟨b, hb, hzs⟩ := bind_eq_ok.mp hzs
        cases h x b hb
        rw [ih _ zs hzs, List.filter_cons]
        cases g x with
        | false => rfl
        | true => simp
  obtain ⟨zs, hzs, hrev⟩ := bind_eq_ok.mp hys
  cases hrev
  rw [haux xs [] zs hzs, List.append_nil, List.reverse_reverse]

/-- Two steps fail if the first does, or the second with its answer; which
failure it is does not count. -/
theorem exists_bind_eq_error {x : Except ε α} {f : α → Except ε β} :
    (∃ e, (x >>= f) = .error e)
      ↔ (∃ e, x = .error e) ∨ ∃ a, x = .ok a ∧ ∃ e, f a = .error e := by
  simp only [bind_eq_error, exists_or]
  exact or_congr_right ⟨fun ⟨e, a, ha, he⟩ => ⟨a, ha, e, he⟩,
    fun ⟨a, ha, e, he⟩ => ⟨e, a, ha, he⟩⟩

/-- A step per item fails exactly if one of the items does. -/
theorem exists_mapM_eq_error {f : α → Except ε β} {xs : List α} :
    (∃ e, xs.mapM f = .error e) ↔ ∃ x ∈ xs, ∃ e, f x = .error e := by
  induction xs with
  | nil =>
      refine ⟨fun ⟨_, h⟩ => (by cases h), ?_⟩
      rintro ⟨_, hx, _⟩
      cases hx
  | cons x rest ih =>
      rw [List.mapM_cons, exists_bind_eq_error, List.exists_mem_cons_iff]
      constructor
      · rintro (hx | ⟨y, _, hrest⟩)
        · exact Or.inl hx
        · rcases exists_bind_eq_error.mp hrest with hrest | ⟨_, _, _, h⟩
          · exact Or.inr (ih.mp hrest)
          · cases h
      · rintro (hx | hrest)
        · exact Or.inl hx
        · cases hx : f x with
          | error e => exact Or.inl ⟨e, rfl⟩
          | ok y =>
              exact Or.inr ⟨y, rfl,
                exists_bind_eq_error.mpr (Or.inl (ih.mpr hrest))⟩

/-- A computation that does not succeed fails. -/
theorem exists_error_iff {x : Except ε α} :
    (∃ e, x = .error e) ↔ ¬ ∃ a, x = .ok a := by
  cases x with
  | error e => exact ⟨fun _ ⟨_, h⟩ => (by cases h), fun _ => ⟨e, rfl⟩⟩
  | ok a => exact ⟨fun ⟨_, h⟩ => (by cases h), fun h => absurd ⟨a, rfl⟩ h⟩

/-- A computation succeeds with the answer that is made optional. -/
theorem eq_ok_of_toOption {x : Except ε α} {a : α}
    (h : x.toOption = some a) : x = .ok a := by
  cases x with
  | error e => cases h
  | ok b => exact congrArg Except.ok (Option.some.inj h)

-- ============================================================ in pairs

/-- What a search finds is related to itself if every answer is. -/
theorem rel_refl {R : α → α → Prop} (hR : ∀ a, R a a) (x : Option α) :
    Option.Rel R x x := by
  cases x with
  | none => exact .none
  | some a => exact .some (hR a)

/-- Answers that are related in one way are related in a weaker one. -/
theorem rel_imp {R S : α → β → Prop} (hRS : ∀ a b, R a b → S a b)
    {x : Option α} {y : Option β} (h : Option.Rel R x y) :
    Option.Rel S x y := by
  cases h with
  | none => exact .none
  | some hab => exact .some (hRS _ _ hab)

/-- Two searches that find related values, or nothing both, go on alike. -/
theorem rel_bind {γ δ : Type} {R : α → β → Prop} {S : γ → δ → Prop}
    {x : Option α} {y : Option β} {f : α → Option γ} {g : β → Option δ}
    (h : Option.Rel R x y) (hfg : ∀ a b, R a b → Option.Rel S (f a) (g b)) :
    Option.Rel S (x.bind f) (y.bind g) := by
  cases h with
  | none => exact .none
  | some hab => exact hfg _ _ hab

/-- Two computations fail alike, or both succeed and their answers are
related. -/
inductive Paired (R : α → β → Prop) : Except ε α → Except ε β → Prop where
  | error (e : ε) : Paired R (.error e) (.error e)
  | ok {a : α} {b : β} (h : R a b) : Paired R (.ok a) (.ok b)

namespace Paired

variable {γ δ : Type} {R : α → β → Prop} {S : γ → δ → Prop} {x : Except ε α}
  {y : Except ε β}

/-- A computation is paired with itself if every answer is related to itself. -/
theorem refl {R : α → α → Prop} (hR : ∀ a, R a a) (x : Except ε α) :
    Paired R x x := by
  cases x with
  | error e => exact .error e
  | ok a => exact .ok (hR a)

/-- Paired computations go on in pairs. -/
theorem bind {f : α → Except ε γ} {g : β → Except ε δ} (h : Paired R x y)
    (hfg : ∀ a b, R a b → Paired S (f a) (g b)) :
    Paired S (x >>= f) (y >>= g) := by
  cases h with
  | error e => exact .error e
  | ok hab => exact hfg _ _ hab

/-- Paired computations come to the same if they go on alike. -/
theorem bind_eq {f : α → Except ε γ} {g : β → Except ε γ} (h : Paired R x y)
    (hfg : ∀ a b, R a b → f a = g b) : x >>= f = y >>= g := by
  cases h with
  | error e => rfl
  | ok hab => exact hfg _ _ hab

end Paired

/-- A step per item over two lists comes to the same if it does for the items
side by side. -/
theorem mapM_eq_of_forall₂ {γ : Type} {f : α → Except ε γ} {g : β → Except ε γ}
    {xs : List α} {ys : List β}
    (h : List.Forall₂ (fun a b => f a = g b) xs ys) :
    xs.mapM f = ys.mapM g := by
  induction h with
  | nil => rfl
  | cons hab _ ih => rw [List.mapM_cons, List.mapM_cons, hab, ih]

/-- A choice that is made alike for the items side by side leaves lists whose
items are side by side. -/
theorem paired_filterM {R : α → β → Prop} {f : α → Except ε Bool}
    {g : β → Except ε Bool} {xs : List α} {ys : List β}
    (hfg : ∀ a b, R a b → f a = g b) (h : List.Forall₂ R xs ys) :
    Paired (List.Forall₂ R) (xs.filterM f) (ys.filterM g) := by
  -- what is kept so far is side by side in both runs
  have haux : ∀ kept kept', List.Forall₂ R kept kept' →
      Paired (List.Forall₂ R) (List.filterAuxM f xs kept)
        (List.filterAuxM g ys kept') := by
    induction h with
    | nil => exact fun _ _ hkept => .ok hkept
    | @cons a b _ _ hab _ ih =>
        intro kept kept' hkept
        rw [List.filterAuxM, List.filterAuxM, hfg a b hab]
        cases g b with
        | error e => exact .error e
        | ok keep =>
            cases keep with
            | false => exact ih _ _ hkept
            | true => exact ih _ _ (.cons hab hkept)
  exact (haux [] [] .nil).bind fun _ _ hkept =>
    .ok (List.forall₂_reverse_iff.mpr hkept)

end Toolsmith.Steps
