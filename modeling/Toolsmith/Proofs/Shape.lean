/-
Checks that succeed, taken apart: what a record is read from when nothing in
it is complained about.
-/
import Toolsmith.Failure

namespace Toolsmith

namespace Shape

/-- A part with its function is read if both are. -/
theorem Checked.seq_eq_ok {α β : Type} {f : Checked (α → β)} {x : Checked α}
    {b : β} (h : f <*> x = .ok b) :
    ∃ g a, f = .ok g ∧ x = .ok a ∧ b = g a := by
  change f.seq x = .ok b at h
  cases f with
  | refused cs => cases x <;> cases h
  | ok g =>
      cases x with
      | refused cs => cases h
      | ok a =>
          cases h
          exact ⟨g, a, rfl, rfl, rfl⟩

/-- Both parts are read exactly if each of them is. -/
theorem Checked.exists_seq_eq_ok {α β : Type} {f : Checked (α → β)}
    {x : Checked α} : (∃ b, f <*> x = .ok b)
      ↔ (∃ g, f = .ok g) ∧ ∃ a, x = .ok a := by
  constructor
  · rintro ⟨b, h⟩
    obtain ⟨g, a, hg, ha, -⟩ := seq_eq_ok h
    exact ⟨⟨g, hg⟩, a, ha⟩
  · rintro ⟨⟨g, rfl⟩, a, rfl⟩
    exact ⟨g a, rfl⟩

/-- What a part is read as may be changed. -/
theorem Checked.exists_map_eq_ok {α β : Type} {g : α → β} {x : Checked α} :
    (∃ b, g <$> x = .ok b) ↔ ∃ a, x = .ok a :=
  (exists_seq_eq_ok (f := .ok g)).trans
    ⟨And.right, fun h => ⟨⟨g, rfl⟩, h⟩⟩

/-- The place of a part does not matter for what it is read as. -/
theorem Checked.under_eq_ok {α : Type} {x : Checked α} {step : String}
    {a : α} : x.under step = .ok a ↔ x = .ok a := by
  cases x with
  | ok b => rfl
  | refused cs => exact ⟨fun h => (by cases h), fun h => (by cases h)⟩

/-- A field that may be left out is absent or a value under one of its
names. -/
theorem fieldOr_eq_ok {α : Type} {names : List String} {absent a : α}
    {check : Check α} {entries : List (Value × Value)}
    (h : fieldOr names absent check entries = .ok a) :
    a = absent ∨ ∃ name v, Value.entry? name entries = some v
      ∧ check v = .ok a := by
  unfold fieldOr at h
  split at h
  next name v hlookup =>
    obtain ⟨tried, -, htried⟩ := List.exists_of_findSome?_eq_some hlookup
    obtain ⟨found, hfound, hpair⟩ := Option.map_eq_some_iff.mp htried
    cases hpair
    exact Or.inr ⟨name, v, hfound, Checked.under_eq_ok.mp h⟩
  · cases h
    exact Or.inl rfl

end Shape

/-- A record that is accepted has been read. -/
theorem Failure.ofChecked_eq_ok {α : Type} {record : String}
    {x : Shape.Checked α} {a : α} :
    Failure.ofChecked record x = .ok a ↔ x = .ok a := by
  cases x with
  | ok b =>
      exact ⟨fun h => congrArg Shape.Checked.ok (Except.ok.inj h),
        fun h => congrArg Except.ok (Shape.Checked.ok.inj h)⟩
  | refused cs => exact ⟨fun h => (by cases h), fun h => (by cases h)⟩

end Toolsmith
