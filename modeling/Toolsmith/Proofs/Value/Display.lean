/-
A value in running text is never empty, unless it is the empty text. The
only way from a value of one kind to a text of its own is `display` of a
text; everything else is spelled out, with brackets, words or digits.

Looking a value up in a web does not change this: a loop stands for a
collection, and spelling out what a collection holds leaves a collection.
-/
import Toolsmith.Document.Basic

namespace Toolsmith

open Text

-- ============================================================= numbers

/-- A number has a digit at least. -/
theorem decimalText_ne_nil (n : Nat) : decimalText n ≠ [] := by
  unfold decimalText
  rw [Nat.toList_repr]
  exact Nat.toDigits_ne_nil

theorem integerText_ne_nil (n : Int) : integerText n ≠ [] := by
  unfold integerText
  split
  · exact List.cons_ne_nil _ _
  · exact decimalText_ne_nil _

/-- A point only adds to digits. -/
theorem withPoint_ne_nil (whole : Int) (digits : List Char) :
    Number.withPoint whole digits ≠ [] := by
  unfold Number.withPoint
  split
  · simp
  · split
    · simp
    · simp

theorem withPower_ne_nil {layout : Number.Layout} {power : Int}
    {digits : List Char} (h : digits ≠ []) :
    Number.withPower layout power digits ≠ [] := by
  cases digits with
  | nil => exact absurd rfl h
  | cons first more => exact List.cons_ne_nil _ _

theorem finiteText_ne_nil (layout : Number.Layout) (negative : Bool)
    (mantissa : Nat) (exponent : Int) :
    Number.finiteText layout negative mantissa exponent ≠ [] := by
  unfold Number.finiteText
  dsimp only
  by_cases hzero : (mantissa == 0) = true
  · rw [if_pos hzero]
    exact List.append_ne_nil_of_right_ne_nil _ (by simp)
  · rw [if_neg hzero]
    refine List.append_ne_nil_of_right_ne_nil _ ?_
    split
    · exact withPoint_ne_nil _ _
    · exact withPower_ne_nil (decimalText_ne_nil _)

theorem Binary64.text_ne_nil (x : Binary64) : x.text ≠ [] := by
  cases x with
  | nan => decide
  | infinity negative => cases negative <;> decide
  | finite negative mantissa exponent =>
      exact finiteText_ne_nil Number.Layout.plain negative mantissa exponent

-- ============================================================== values

namespace Value

theorem literal_ne_nil (v : Value) : v.literal ≠ [] := by
  cases v with
  | null => decide
  | bool b => cases b <;> decide
  | int n => exact integerText_ne_nil n
  | float x => exact x.text_ne_nil
  | set items =>
      rw [literal]
      split
      · decide
      · exact List.cons_ne_nil _ _
  | loop number mapping =>
      rw [literal]
      split
      · decide
      · decide
  | text s => exact List.cons_ne_nil _ _
  | bytes octets => exact List.cons_ne_nil _ _
  | date d =>
      show d.literal ≠ []
      simp [Date.literal, callText]
  | moment t =>
      show t.literal ≠ []
      simp [Moment.literal, callText]
  | pair a b => exact List.cons_ne_nil _ _
  | list items => exact List.cons_ne_nil _ _
  | map entries => exact List.cons_ne_nil _ _

/-- Only the empty text takes no room in running text. -/
theorem display_ne_nil {v : Value} (h : v ≠ .text "") : v.display ≠ [] := by
  cases v with
  | text s =>
      intro hs
      exact h (congrArg Value.text (String.toList_eq_nil_iff.mp hs))
  | date d =>
      show d.iso ≠ []
      unfold Date.iso
      simp
  | moment t =>
      show t.iso ' ' ≠ []
      unfold Moment.iso
      simp
  | _ => exact literal_ne_nil _

/-- A collection is not a text. -/
theorem ne_text_of_isCollection {v : Value} (h : v.isCollection = true)
    (s : String) : v ≠ .text s := by
  rintro rfl
  cases h

end Value

-- ================================================================ webs

namespace Web

open Value

/-- What is not the empty text does not become it by spelling out the
loops in it, since a loop becomes a collection or stays a loop. -/
theorem unfold_ne_text (w : Web) :
    ∀ (fuel : Nat) (opened : List Nat) {v : Value}, v ≠ .text "" →
      w.unfold fuel opened v ≠ .text "" := by
  intro fuel
  cases fuel with
  | zero => intro opened v h; exact h
  | succ fuel =>
      intro opened v h
      cases v with
      | text s => exact h
      | loop number mapping =>
          show (if opened.contains number then _ else _) ≠ _
          split
          · exact fun h => by cases h
          · split
            next knot _ =>
              refine ne_text_of_isCollection ?_ ""
              cases fuel with
              | zero => exact knot.isCollection
              | succ fuel => exact isCollection_graft knot.isCollection
            next => exact fun h => by cases h
      | _ => exact fun h => by cases h

theorem whole_ne_text (w : Web) {v : Value} (h : v ≠ .text "") :
    w.whole v ≠ .text "" := by
  unfold whole
  split
  · exact h
  · exact w.unfold_ne_text _ _ h

end Web

/-- What a document has to say about a part is empty only for the empty
text. -/
theorem Document.display_ne_nil {d : Document} {v : Value} {s : List Char}
    (hv : v.isTruthy = true) (h : d.display v = .ok s) : s ≠ [] := by
  have hne : v ≠ .text "" := by
    rintro rfl
    cases hv
  unfold Document.display Failure.ofDisplay at h
  split at h
  · cases h
    exact Value.display_ne_nil (d.web.whole_ne_text hne)
  · cases h

end Toolsmith
