/-
What a computation needs. One that needs a condition has a result exactly
under it, and without it ends in a mishap: a value was put to a use that it
has not, or does not have the shape of a record. Every part of reading a
document gets one such statement, and the statements compose along the
computation: steps one after the other need what each of them needs.
-/
import Toolsmith.Proofs.Shape
import Toolsmith.Proofs.Steps

namespace Toolsmith

/-- A failure that nothing in a document has been made out to be: a value does
not fit where it stands. -/
def Failure.IsMishap : Failure → Prop
  | .misuse _ | .shape _ _ => True
  | _ => False

/-- The computation has a result exactly under the condition, and ends in a
mishap without it. -/
structure Needs {α : Type} (x : Except Failure α) (p : Prop) : Prop where
  exists_ok_iff : (∃ a, x = .ok a) ↔ p
  mishap : ∀ {failure}, x = .error failure → failure.IsMishap

namespace Needs

variable {α β : Type} {p q : Prop} {x : Except Failure α}

-- =============================================================== single

theorem ok {a : α} (h : p) : Needs (.ok a) p where
  exists_ok_iff := ⟨fun _ => h, fun _ => ⟨a, rfl⟩⟩
  mishap h := by cases h

theorem error (failure : Failure) (hm : failure.IsMishap) (h : ¬ p) :
    Needs (.error failure : Except Failure α) p where
  exists_ok_iff := ⟨fun ⟨_, h⟩ => (by cases h), fun hp => absurd hp h⟩
  mishap heq := by cases heq; exact hm

theorem misuse {how : Misuse} (h : ¬ p) :
    Needs (.error (.misuse how) : Except Failure α) p :=
  error (.misuse how) trivial h

/-- A checked record needs that nothing in it is complained about. -/
theorem ofChecked {record : String} {checked : Shape.Checked α}
    (h : (∃ a, checked = .ok a) ↔ p) :
    Needs (Failure.ofChecked record checked) p := by
  cases checked with
  | ok a => exact ok (h.mp ⟨a, rfl⟩)
  | refused complaints =>
      refine error (.shape record complaints) trivial fun hp => ?_
      obtain ⟨_, ha⟩ := h.mpr hp
      cases ha

theorem congr (h : Needs x p) (hpq : p ↔ q) : Needs x q where
  exists_ok_iff := h.exists_ok_iff.trans hpq
  mishap := h.mishap

/-- A computation with a result needs no more than holds. -/
theorem holds (h : Needs x p) {a : α} (ha : x = .ok a) : p :=
  h.exists_ok_iff.mp ⟨a, ha⟩

-- ============================================================= composed

/-- The second of two steps needs its condition once the first one has come
to a result. -/
theorem bind {f : α → Except Failure β} (hx : Needs x p)
    (hf : ∀ a, x = .ok a → Needs (f a) q) : Needs (x >>= f) (p ∧ q) where
  exists_ok_iff := by
    constructor
    · rintro ⟨b, h⟩
      obtain ⟨a, ha, hb⟩ := Steps.bind_eq_ok.mp h
      exact ⟨hx.holds ha, (hf a ha).holds hb⟩
    · rintro ⟨hp, hq⟩
      obtain ⟨a, ha⟩ := hx.exists_ok_iff.mpr hp
      obtain ⟨b, hb⟩ := (hf a ha).exists_ok_iff.mpr hq
      exact ⟨b, Steps.bind_eq_ok.mpr ⟨a, ha, hb⟩⟩
  mishap h := by
    rcases Steps.bind_eq_error.mp h with h | ⟨a, ha, h⟩
    · exact hx.mishap h
    · exact (hf a ha).mishap h

/-- What the second step needs may depend on the result of the first. -/
theorem bind_of {f : α → Except Failure β} {r : α → Prop} (hx : Needs x p)
    (hf : ∀ a, x = .ok a → Needs (f a) (r a)) :
    Needs (x >>= f) (p ∧ ∀ a, x = .ok a → r a) :=
  hx.bind fun a ha => (hf a ha).congr
    ⟨fun hr a' ha' => by
        rw [ha] at ha'
        cases ha'
        exact hr,
      fun h => h a ha⟩

/-- A step that cannot fail behind another one needs nothing. -/
theorem bind_ok (f : α → β) (hx : Needs x p) :
    Needs (x >>= fun a => .ok (f a)) p :=
  (hx.bind fun _ _ => ok trivial).congr ⟨And.left, fun h => ⟨h, trivial⟩⟩

/-- Nor does a change of the result. -/
theorem map (f : α → β) (hx : Needs x p) : Needs (x.map f) p := by
  have h := hx.bind_ok f
  cases x with
  | ok a => exact h
  | error failure => exact h

/-- A step per item needs what it needs for each of them. -/
theorem mapM {f : α → Except Failure β} {r : α → Prop} {xs : List α}
    (h : ∀ a ∈ xs, Needs (f a) (r a)) : Needs (xs.mapM f) (∀ a ∈ xs, r a) := by
  induction xs with
  | nil => exact ok fun _ ha => (by cases ha)
  | cons a rest ih =>
      obtain ⟨ha, hrest⟩ := List.forall_mem_cons.mp h
      rw [List.mapM_cons, List.forall_mem_cons]
      exact ha.bind fun b _ => (ih hrest).bind_ok (b :: ·)

/-- So does a choice among items that is made by such a step. -/
theorem filterM {f : α → Except Failure Bool} {r : α → Prop} {xs : List α}
    (h : ∀ a ∈ xs, Needs (f a) (r a)) :
    Needs (xs.filterM f) (∀ a ∈ xs, r a) := by
  have haux : ∀ (xs kept : List α), (∀ a ∈ xs, Needs (f a) (r a)) →
      Needs (List.filterAuxM f xs kept) (∀ a ∈ xs, r a) := by
    intro xs
    induction xs with
    | nil =>
        intro kept _
        exact ok fun _ ha => (by cases ha)
    | cons a rest ih =>
        intro kept h
        obtain ⟨ha, hrest⟩ := List.forall_mem_cons.mp h
        rw [List.forall_mem_cons]
        exact ha.bind fun _ _ => ih _ hrest
  exact (haux xs [] h).bind_ok List.reverse

end Needs

end Toolsmith
