/-
Texts of a document in the comments of a source. The text of a block comment
has no mark in it that ends the comment, since each one is taken apart; a line
of it is a stretch of such a text. A line has no break, so it stays on its row.
-/
import Toolsmith.Generate.Comment
import Toolsmith.Proofs.Text.Parts
import Toolsmith.Proofs.Text.Replace
import Toolsmith.Proofs.Text.Rows

namespace Toolsmith.Generate

open Text

-- ====================================================== block comments

theorem mark_prefix_cons {c : Char} {s : List Char} :
    ['*', '/'] <+: c :: s ↔ c = '*' ∧ s.head? = some '/' := by
  cases s with
  | nil => simp
  | cons d rest => simp [List.cons_prefix_cons, eq_comm]

/-- A text that is taken apart begins as it did, and has no mark in it that
ends a block comment. -/
theorem defused_spec (n : Nat) : ∀ s : List Char, s.length ≤ n →
    (defused s).head? = s.head? ∧ ¬ ['*', '/'] <:+: defused s := by
  induction n with
  | zero =>
      intro s hs
      rw [List.length_eq_zero_iff.mp (Nat.le_zero.mp hs)]
      exact ⟨rfl, by decide⟩
  | succ n ih =>
      intro s hs
      by_cases hmark : ['*', '/'] <+: s
      · obtain ⟨rest, rfl⟩ := hmark
        have hrest : rest.length ≤ n := by
          rw [List.length_append, List.length_cons] at hs
          omega
        have heq : defused (['*', '/'] ++ rest)
            = '*' :: ' ' :: '/' :: defused rest :=
          replace_append_self (by decide) rest
        rw [heq]
        refine ⟨rfl, ?_⟩
        rw [List.infix_cons_iff, List.infix_cons_iff, List.infix_cons_iff,
          mark_prefix_cons, mark_prefix_cons, mark_prefix_cons]
        rintro (⟨-, h⟩ | ⟨h, -⟩ | ⟨h, -⟩ | h)
        · cases h
        · cases h
        · cases h
        · exact (ih rest hrest).2 h
      · cases s with
        | nil => exact ⟨rfl, by decide⟩
        | cons c rest =>
            have hrest : rest.length ≤ n := Nat.le_of_succ_le_succ hs
            have heq : defused (c :: rest) = c :: defused rest :=
              replace_cons_of_not_prefix hmark
            obtain ⟨hhead, hnone⟩ := ih rest hrest
            rw [heq]
            refine ⟨rfl, fun h => ?_⟩
            rcases List.infix_cons_iff.mp h with h | h
            · -- a mark at the start was one before
              rw [mark_prefix_cons, hhead] at h
              exact hmark (mark_prefix_cons.mpr h)
            · exact hnone h

theorem not_infix_defused (s : List Char) :
    ¬ "*/".toList <:+: defused s :=
  (defused_spec s.length s (Nat.le_refl _)).2

theorem commentLines_ne_nil (mark s : List Char) :
    commentLines mark s ≠ [] := by
  unfold commentLines
  dsimp only
  split
  · exact List.cons_ne_nil _ _
  next h =>
    rw [List.isEmpty_iff] at h
    exact fun hnil => h (List.map_eq_nil_iff.mp hnil)

/-- A line of a comment begins a mark with a line of the text. -/
theorem exists_of_mem_commentLines {mark s line : List Char}
    (h : line ∈ commentLines mark s) :
    ∃ part, line <+: mark ++ part ∧ part <:+: defused s
      ∧ ∀ c ∈ part, isLineBreak c = false := by
  obtain ⟨part, hpart, rfl⟩ := List.mem_map.mp h
  refine ⟨part, stripRight_isPrefix _, ?_⟩
  split at hpart
  · rw [List.mem_singleton.mp hpart]
    exact ⟨List.nil_infix, fun _ h => (by cases h)⟩
  · exact ⟨(infix_of_lines _).1 part hpart,
      isLineBreak_of_mem_lines _ part hpart⟩

end Toolsmith.Generate
