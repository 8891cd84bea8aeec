/-
Names as JSON strings. A name needs no escapes, so its string is the name in
quotes, and reading the string gives the name back.
-/
import Toolsmith.Proofs.Json.Unescaped

namespace Toolsmith.Json

open Text

/-- A character of a name stands for itself in a string: it is none of those
that are escaped. -/
theorem stringChar_of_isNameChar {c : Char} (h : isNameChar c = true) :
    stringChar true c = [c] := by
  have hvisible := isVisible_of_isNameChar h
  simp only [isVisible, Bool.and_eq_true, decide_eq_true_eq] at hvisible
  have hother : ∀ d, isNameChar d = false → (c == d) = false := by
    intro d hd
    refine beq_eq_false_iff_ne.mpr ?_
    rintro rfl
    rw [h] at hd
    cases hd
  unfold stringChar
  rw [hother '"' (by decide), hother '\\' (by decide),
    hother '\n' (by decide), hother '\r' (by decide),
    hother '\t' (by decide), hother '\x0c' (by decide),
    hother '\x08' (by decide)]
  have hplain : (decide (c.toNat < 0x20) || (true && decide (0x7f ≤ c.toNat)))
      = false := by
    simp only [Bool.true_and, Bool.or_eq_false_iff, decide_eq_false_iff_not]
    omega
  rw [hplain]
  rfl

/-- A name as a string is the name in quotes. -/
theorem stringText_of_all_isNameChar {s : List Char}
    (h : s.all isNameChar = true) :
    stringText true s = '"' :: s ++ ['"'] := by
  have hchars : s.flatMap (stringChar true) = s := by
    induction s with
    | nil => rfl
    | cons c rest ih =>
        rw [List.all_cons] at h
        obtain ⟨hc, hrest⟩ := Bool.and_eq_true_iff.mp h
        rw [List.flatMap_cons, stringChar_of_isNameChar hc, ih hrest]
        rfl
  unfold stringText
  rw [hchars]

/-- The string of a name is read as the name. -/
theorem read_stringText_name {s : String}
    (h : s.toList.all isNameChar = true) :
    read (stringText true s.toList) = .ok (.text s) := by
  have hvisible : Visible s.toList := fun c hc =>
    isVisible_of_isNameChar (List.all_eq_true.mp h c hc)
  rw [read_stringText, joinPairs_of_unpaired hvisible.loneFree.unpaired,
    String.ofList_toList]

end Toolsmith.Json
