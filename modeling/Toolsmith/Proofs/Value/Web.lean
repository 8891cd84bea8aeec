/-
Settled webs. In a settled web a loop says what it stands for, so a value
that passes for a mapping is one when it is looked at, wherever it stands:
grafting reaches every loop, and settles it by the very collection that a
look at it finds.
-/
import Toolsmith.Value.Web

namespace Toolsmith

namespace Value

/-- Grafting works on the entries of a mapping one by one. -/
theorem exists_of_mem_entryGrafts {other : Nat → Bool → Value}
    {entries : List (Value × Value)} {e : Value × Value}
    (h : e ∈ entryGrafts other entries) :
    ∃ v : Value, e.2 = v.graft other := by
  induction entries with
  | nil => cases h
  | cons entry rest ih =>
      obtain ⟨k, v⟩ := entry
      rw [entryGrafts] at h
      rcases List.mem_cons.mp h with rfl | h
      · exact ⟨v, rfl⟩
      · exact ih h

end Value

namespace Web

open Value

variable {w : Web}

/-- A settled web has the same collections as before, with settled loops in
them. -/
theorem lookup_settled (w : Web) (number : Nat) :
    w.settled.knots.lookup number
      = (w.knots.lookup number).map (Knot.graft w.settledLoop) := by
  unfold settled
  induction w.knots with
  | nil => rfl
  | cons knot rest ih =>
      obtain ⟨n, k⟩ := knot
      rw [List.map_cons, List.lookup_cons, List.lookup_cons]
      split
      · rfl
      · exact ih

/-- What a settled loop stands for is the collection of the web that it stood
for before, or the loop itself if there is none. -/
theorem look_settledLoop (number : Nat) (mapping : Bool) :
    w.settled.look (w.settledLoop number mapping)
      = (((w.knots.lookup number).map fun k =>
          k.value.graft w.settledLoop).getD
            (w.settledLoop number mapping)) := by
  unfold settledLoop look
  dsimp only
  rw [lookup_settled, Option.map_map]
  rfl

/-- A value of a settled web that passes for a mapping is found to be one. -/
theorem exists_look_of_isMap {v : Value}
    (h : (v.graft w.settledLoop).isMap = true) :
    ∃ entries, w.settled.look (v.graft w.settledLoop) = .map entries := by
  cases v with
  | map entries => exact ⟨_, rfl⟩
  | loop number mapping =>
      rw [graft] at h ⊢
      rw [look_settledLoop]
      unfold settledLoop isMap at h
      cases hknot : w.knots.lookup number with
      | none =>
          rw [hknot] at h
          cases h
      | some k =>
          rw [hknot] at h
          have hcollection := k.isCollection
          cases hvalue : k.value with
          | map entries =>
              refine ⟨entryGrafts w.settledLoop entries, ?_⟩
              rw [Option.map_some, Option.getD_some, hvalue, graft]
          | loop =>
              rw [hvalue] at hcollection
              cases hcollection
          | _ =>
              rw [Option.map_some, Option.getD_some, hvalue] at h
              cases h
  | _ => rw [graft] at h; cases h

/-- The entries of a settled web's root have settled values. -/
theorem exists_graft_of_mem_root {entries : List (Value × Value)}
    (h : w.settled.look w.settled.root = .map entries)
    {e : Value × Value} (he : e ∈ entries) :
    ∃ v : Value, e.2 = v.graft w.settledLoop := by
  have hroot : w.settled.root = w.root.graft w.settledLoop := rfl
  rw [hroot] at h
  cases hw : w.root with
  | map inner =>
      rw [hw, graft] at h
      cases h
      exact exists_of_mem_entryGrafts he
  | loop number mapping =>
      rw [hw, graft, look_settledLoop] at h
      cases hknot : w.knots.lookup number with
      | none =>
          rw [hknot] at h
          cases h
      | some k =>
          rw [hknot, Option.map_some, Option.getD_some] at h
          have hcollection := k.isCollection
          cases hvalue : k.value with
          | map inner =>
              rw [hvalue, graft] at h
              cases h
              exact exists_of_mem_entryGrafts he
          | loop =>
              rw [hvalue] at hcollection
              cases hcollection
          | _ => rw [hvalue, graft] at h; cases h
  | _ => rw [hw, graft] at h; cases h

end Web

end Toolsmith
