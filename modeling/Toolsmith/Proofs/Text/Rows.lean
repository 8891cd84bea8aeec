/-
The rows of a rendered source: what stands between its line feeds. A line
that holds no line feed is one row; one that does is several, the first of
them behind the text that the line begins with.
-/
import Toolsmith.Generate.Tool
import Toolsmith.Text.Lines

namespace Toolsmith

namespace Text

variable {mark : Char}

/-- A text has a part in front of its first mark. -/
theorem splitAt_ne_nil (s : List Char) : splitAt mark s ≠ [] := by
  cases s with
  | nil => exact List.cons_ne_nil _ _
  | cons c rest =>
      rw [splitAt]
      split
      · exact List.cons_ne_nil _ _
      · cases splitAt mark rest <;> exact List.cons_ne_nil _ _

/-- The first part of a text that goes on behind `s` begins with `s`, if
there is no mark in `s`. -/
theorem splitAt_append_of_not_mem {s : List Char} (h : mark ∉ s)
    (t : List Char) :
    splitAt mark (s ++ t)
      = (s ++ (splitAt mark t).headD []) :: (splitAt mark t).tail := by
  induction s with
  | nil =>
      have hne : splitAt mark t ≠ [] := splitAt_ne_nil t
      rw [List.nil_append]
      cases ht : splitAt mark t with
      | nil => exact absurd ht hne
      | cons first more => rfl
  | cons c rest ih =>
      have hc := List.ne_of_not_mem_cons h
      have hrest := List.not_mem_of_not_mem_cons h
      rw [List.cons_append, splitAt, ih hrest, if_neg]
      · rfl
      · rw [beq_iff_eq]
        exact fun heq => hc heq.symm

/-- A text without marks is one part. -/
theorem splitAt_of_not_mem {s : List Char} (h : mark ∉ s) :
    splitAt mark s = [s] := by
  have hsplit := splitAt_append_of_not_mem h []
  rw [List.append_nil] at hsplit
  rw [hsplit]
  show [s ++ []] = [s]
  rw [List.append_nil]

/-- The parts on both sides of a mark. -/
theorem splitAt_append_mark (s t : List Char) :
    splitAt mark (s ++ mark :: t) = splitAt mark s ++ splitAt mark t := by
  induction s with
  | nil =>
      show (if mark == mark then [] :: splitAt mark t else _) = _
      rw [if_pos (beq_self_eq_true mark)]
      rfl
  | cons c rest ih =>
      have hne : splitAt mark rest ≠ [] := splitAt_ne_nil rest
      rw [List.cons_append, splitAt, splitAt, ih]
      split
      · rfl
      · cases hrest : splitAt mark rest with
        | nil => exact absurd hrest hne
        | cons first more => rfl

/-- The parts of parts that are joined by the mark, none of which holds
it. -/
theorem splitAt_join {parts : List (List Char)} (hne : parts ≠ [])
    (h : ∀ part ∈ parts, mark ∉ part) :
    splitAt mark (join [mark] parts) = parts := by
  induction parts with
  | nil => exact absurd rfl hne
  | cons part rest ih =>
      obtain ⟨hpart, hrest⟩ := List.forall_mem_cons.mp h
      cases rest with
      | nil => exact splitAt_of_not_mem hpart
      | cons next more =>
          rw [join]
          · rw [List.append_assoc, List.singleton_append,
              splitAt_append_mark, splitAt_of_not_mem hpart,
              ih (List.cons_ne_nil _ _) hrest]
            rfl
          · exact List.cons_ne_nil _ _

/-- A line is a stretch of the text, and the first one begins it. -/
theorem infix_of_lines (s : List Char) :
    (∀ line ∈ lines s, line <:+: s)
      ∧ ∀ first rest, lines s = first :: rest → first <+: s := by
  fun_induction lines s with
  | case1 =>
      exact ⟨fun _ h => (by cases h), fun _ _ h => (by cases h)⟩
  | case2 rest ih =>
      refine ⟨List.forall_mem_cons.mpr ⟨List.nil_infix, fun line hline => ?_⟩,
        fun first more h => ?_⟩
      · exact List.infix_cons (List.infix_cons (ih.1 line hline))
      · cases h
        exact List.nil_prefix
  | case3 c rest _ hbreak ih =>
      refine ⟨List.forall_mem_cons.mpr ⟨List.nil_infix, fun line hline => ?_⟩,
        fun first more h => ?_⟩
      · exact List.infix_cons (ih.1 line hline)
      · cases h
        exact List.nil_prefix
  | case4 c rest _ hbreak ih =>
      cases hrest : lines rest with
      | nil =>
          have hc : [c] <+: c :: rest :=
            List.cons_prefix_cons.mpr ⟨rfl, List.nil_prefix⟩
          refine ⟨List.forall_mem_singleton.mpr hc.isInfix, ?_⟩
          intro first more h
          cases h
          exact hc
      | cons first more =>
          rw [hrest] at ih
          have hc : c :: first <+: c :: rest :=
            List.cons_prefix_cons.mpr ⟨rfl, ih.2 first more rfl⟩
          refine ⟨List.forall_mem_cons.mpr ⟨hc.isInfix, ?_⟩, ?_⟩
          · exact fun line hline => List.infix_cons
              (ih.1 line (List.mem_cons_of_mem _ hline))
          · intro first' more' h
            cases h
            exact hc

/-- A line holds no break. -/
theorem isLineBreak_of_mem_lines (s : List Char) :
    ∀ line ∈ lines s, ∀ c ∈ line, isLineBreak c = false := by
  fun_induction lines s with
  | case1 => exact fun _ h => (by cases h)
  | case2 rest ih =>
      exact List.forall_mem_cons.mpr ⟨fun _ h => (by cases h), ih⟩
  | case3 c rest _ hbreak ih =>
      exact List.forall_mem_cons.mpr ⟨fun _ h => (by cases h), ih⟩
  | case4 c rest _ hbreak ih =>
      have hc : isLineBreak c = false := Bool.eq_false_iff.mpr hbreak
      cases hrest : lines rest with
      | nil =>
          exact List.forall_mem_singleton.mpr
            (List.forall_mem_singleton.mpr hc)
      | cons first more =>
          rw [hrest] at ih
          obtain ⟨hfirst, hmore⟩ := List.forall_mem_cons.mp ih
          exact List.forall_mem_cons.mpr
            ⟨List.forall_mem_cons.mpr ⟨hc, hfirst⟩, hmore⟩

/-- The line feed is a break, so a line holds none. -/
theorem not_mem_of_mem_lines (s : List Char) :
    ∀ line ∈ lines s, '\n' ∉ line := by
  intro line hline hmem
  have hfeed := isLineBreak_of_mem_lines s line hline '\n' hmem
  cases hfeed

/-- Lines with a break behind each, as they are joined by breaks with one at
the end. -/
theorem join_append_break {parts : List (List Char)} (hne : parts ≠ []) :
    join ['\n'] parts ++ ['\n'] = parts.flatMap (· ++ ['\n']) := by
  induction parts with
  | nil => exact absurd rfl hne
  | cons part rest ih =>
      cases rest with
      | nil => exact (List.append_nil _).symm
      | cons next others =>
          have hrest := ih (List.cons_ne_nil _ _)
          rw [join, List.append_assoc, hrest]
          · rfl
          · exact List.cons_ne_nil _ _

end Text

namespace Generate

open Text

/-- The rows of the lines of a source. -/
def rows (lines : Lines) : List (List Char) := lines.flatMap (splitAt '\n')

@[simp]
theorem rows_nil : rows [] = [] := rfl

@[simp]
theorem rows_cons (line : List Char) (rest : Lines) :
    rows (line :: rest) = splitAt '\n' line ++ rows rest := rfl

@[simp]
theorem rows_append (above below : Lines) :
    rows (above ++ below) = rows above ++ rows below :=
  List.flatMap_append

/-- A line has a row. -/
theorem rows_ne_nil {lines : Lines} (h : lines ≠ []) : rows lines ≠ [] := by
  cases lines with
  | nil => exact absurd rfl h
  | cons line rest =>
      exact fun hnil =>
        splitAt_ne_nil line (List.append_eq_nil_iff.mp hnil).1

/-- A source is made of the rows of its lines and of what is behind the
last break. -/
theorem splitAt_render (lines : Lines) :
    splitAt '\n' (render lines).toList = rows lines ++ [[]] := by
  unfold render
  rw [String.toList_ofList]
  induction lines with
  | nil => rfl
  | cons line rest ih =>
      rw [List.flatMap_cons, List.append_assoc, List.singleton_append,
        splitAt_append_mark, ih, rows_cons, List.append_assoc]

/-- Lines without breaks are the rows. -/
theorem rows_of_not_mem {lines : Lines} (h : ∀ line ∈ lines, '\n' ∉ line) :
    rows lines = lines := by
  induction lines with
  | nil => rfl
  | cons line rest ih =>
      obtain ⟨hline, hrest⟩ := List.forall_mem_cons.mp h
      rw [rows_cons, splitAt_of_not_mem hline, ih hrest]
      rfl

end Generate

end Toolsmith
