/-
Parts of a text: what is left when blanks come off its ends, or what it starts
with, stands in the text.
-/
import Mathlib.Data.List.TakeWhile
import Toolsmith.Text.Lines
import Toolsmith.Text.Search

namespace Toolsmith.Text

/-- A text without the blanks at its end begins the text. -/
theorem stripRight_isPrefix (s : List Char) : stripRight s <+: s := by
  rw [stripRight, ← List.reverse_suffix, List.reverse_reverse]
  exact List.dropWhile_suffix _

/-- What stands between margins stands in the text. -/
theorem strip_isInfix (s : List Char) : strip s <:+: s :=
  (stripRight_isPrefix _).isInfix.trans (List.dropWhile_suffix _).isInfix

/-- A text starts with `start` exactly if it is `start` and what follows. -/
theorem after?_eq_some_iff {start s rest : List Char} :
    after? start s = some rest ↔ s = start ++ rest := by
  induction start generalizing s with
  | nil => cases s <;> exact Option.some_inj
  | cons a start ih =>
      cases s with
      | nil => constructor <;> (intro h; cases h)
      | cons c s =>
          rw [after?, List.cons_append, List.cons.injEq]
          by_cases hc : a = c
          · rw [if_pos (beq_iff_eq.mpr hc), ih]
            exact (and_iff_right hc.symm).symm
          · rw [if_neg fun h => hc (eq_of_beq h)]
            exact iff_of_false nofun fun h => hc h.1.symm

/-- What follows the start of a text ends the text. -/
theorem suffix_of_after? {start s rest : List Char}
    (h : after? start s = some rest) : rest <:+ s :=
  ⟨start, (after?_eq_some_iff.mp h).symm⟩

/-- A text does not start with what begins with another character. -/
theorem after?_cons_of_ne {a c : Char} (h : a ≠ c) (start s : List Char) :
    after? (a :: start) (c :: s) = none := by
  rw [after?, if_neg fun heq => h (eq_of_beq heq)]

-- ============================================================= margins

/-- A text of blanks alone. -/
def IsMargin (s : List Char) : Prop := ∀ c ∈ s, isBlank c = true

theorem isMargin_nil : IsMargin [] := fun _ h => absurd h List.not_mem_nil

/-- Margins side by side are a margin. -/
theorem IsMargin.append {s t : List Char} (hs : IsMargin s)
    (ht : IsMargin t) : IsMargin (s ++ t) :=
  fun c hc => (List.mem_append.mp hc).elim (hs c) (ht c)

/-- What does not begin with a blank is left when its left margin is off. -/
theorem stripLeft_margin {margin s : List Char} {x : Char}
    (hmargin : IsMargin margin) (hx : isBlank x = false) :
    stripLeft (margin ++ x :: s) = x :: s := by
  rw [stripLeft, List.dropWhile_append_of_pos hmargin,
    List.dropWhile_cons_of_neg (Bool.eq_false_iff.mp hx)]

/-- What does not end with a blank is left when its right margin is off. -/
theorem stripRight_margin {margin s : List Char} {x : Char}
    (hmargin : IsMargin margin) (hx : isBlank x = false) :
    stripRight (s ++ [x] ++ margin) = s ++ [x] := by
  have hreverse : (s ++ [x] ++ margin).reverse
      = margin.reverse ++ x :: s.reverse := by
    simp only [List.reverse_append, List.reverse_singleton,
      List.singleton_append]
  rw [stripRight, hreverse, List.dropWhile_append_of_pos fun c hc =>
    hmargin c (List.mem_reverse.mp hc),
    List.dropWhile_cons_of_neg (Bool.eq_false_iff.mp hx), List.reverse_cons,
    List.reverse_reverse]

/-- Nothing is left exactly of blanks. -/
theorem strip_eq_nil_iff {s : List Char} : strip s = [] ↔ IsMargin s := by
  have hright : strip s = [] ↔ ∀ c ∈ stripLeft s, isBlank c = true := by
    unfold strip stripRight
    rw [List.reverse_eq_nil_iff, List.dropWhile_eq_nil_iff]
    exact forall_congr' fun c => by rw [List.mem_reverse]
  rw [hright]
  refine ⟨fun h => ?_, fun h c hc => h c ((List.dropWhile_suffix _).mem hc)⟩
  refine List.dropWhile_eq_nil_iff.mp ?_
  -- what is left would begin with something else than a blank
  cases hleft : s.dropWhile isBlank with
  | nil => rfl
  | cons c rest =>
      have hmem : c ∈ stripLeft s := by
        rw [stripLeft, hleft]
        exact List.mem_cons_self
      have hhead := List.head?_dropWhile_not isBlank s
      rw [hleft] at hhead
      exact absurd (h c hmem) (Bool.eq_false_iff.mp hhead)

/-- What neither begins nor ends with a blank is left when its margins are
off. -/
theorem strip_margins {left inner right : List Char} {x y : Char}
    (hleft : IsMargin left) (hx : isBlank x = false)
    (hy : isBlank y = false) (hright : IsMargin right) :
    strip (left ++ (x :: inner ++ [y]) ++ right) = x :: inner ++ [y] := by
  have hparts : left ++ (x :: inner ++ [y]) ++ right
      = left ++ x :: (inner ++ [y] ++ right) := by
    simp only [List.append_assoc, List.cons_append]
  rw [strip, hparts, stripLeft_margin hleft hx]
  exact stripRight_margin (s := x :: inner) hright hy

end Toolsmith.Text
