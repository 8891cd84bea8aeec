/-
The lines of a text and the text of lines. Lines without breaks, none of them
empty, are the lines of the text that they are joined to; blanks that come off
the end of a line leave what it begins with; and what stands in a text stands on
one side of a break, if it holds none. Words are taken from both sides of a blank
in the same way, and hold none.
-/
import Toolsmith.Proofs.Text.Rows

namespace Toolsmith.Text

/-- A character that is no break belongs to the first line. -/
theorem lines_cons_of_not_break {c : Char} (h : isLineBreak c = false)
    (s : List Char) : lines (c :: s) = consLine c (lines s) := by
  rw [lines, h]
  · rfl
  · rintro rest rfl
    cases h

/-- A line with a break behind it is the first line. -/
theorem lines_append_break {line : List Char}
    (h : ∀ c ∈ line, isLineBreak c = false) (s : List Char) :
    lines (line ++ '\n' :: s) = line :: lines s := by
  induction line with
  | nil => rfl
  | cons c rest ih =>
      obtain ⟨hc, hrest⟩ := List.forall_mem_cons.mp h
      rw [List.cons_append, lines_cons_of_not_break hc, ih hrest, consLine]

/-- A text without breaks is one line. -/
theorem lines_of_forall {line : List Char} (hne : line ≠ [])
    (h : ∀ c ∈ line, isLineBreak c = false) : lines line = [line] := by
  induction line with
  | nil => exact absurd rfl hne
  | cons c rest ih =>
      obtain ⟨hc, hrest⟩ := List.forall_mem_cons.mp h
      rw [lines_cons_of_not_break hc]
      cases rest with
      | nil => rfl
      | cons d more => rw [ih (List.cons_ne_nil _ _) hrest, consLine]

/-- Lines joined by breaks are the lines of the text. -/
theorem lines_join {parts : List (List Char)}
    (hne : ∀ part ∈ parts, part ≠ [])
    (h : ∀ part ∈ parts, ∀ c ∈ part, isLineBreak c = false) :
    lines (join ['\n'] parts) = parts := by
  induction parts with
  | nil => rfl
  | cons part rest ih =>
      obtain ⟨hpart, hrest⟩ := List.forall_mem_cons.mp h
      obtain ⟨hfirst, hothers⟩ := List.forall_mem_cons.mp hne
      cases rest with
      | nil => exact lines_of_forall hfirst hpart
      | cons next more =>
          rw [join, List.append_assoc, List.singleton_append,
            lines_append_break hpart, ih hothers hrest]
          exact List.cons_ne_nil _ _

/-- A character at the front opens a line only if there was none. -/
theorem length_consLine (c : Char) (all : List (List Char)) :
    (consLine c all).length = max 1 all.length := by
  cases all with
  | nil => rfl
  | cons line rest =>
      simp only [consLine, List.length_cons]
      omega

/-- What a text begins with is left when blanks come off its end, if it ends
with something else. -/
theorem prefix_stripRight {x : Char} (hx : isBlank x = false)
    (start s : List Char) :
    start ++ [x] <+: stripRight (start ++ [x] ++ s) := by
  have hreverse : (start ++ [x] ++ s).reverse
      = s.reverse ++ x :: start.reverse := by
    simp only [List.reverse_append, List.reverse_singleton,
      List.singleton_append]
  have hstart : (start ++ [x]).reverse = x :: start.reverse := by
    rw [List.reverse_append, List.reverse_singleton, List.singleton_append]
  rw [stripRight, hreverse, ← List.reverse_suffix, List.reverse_reverse,
    hstart, List.dropWhile_append,
    List.dropWhile_cons_of_neg (Bool.eq_false_iff.mp hx)]
  split
  · exact List.suffix_refl _
  · exact List.suffix_append _ _

variable {α : Type} {part s t : List α} {c : α}

/-- What a text begins with ends in front of a character that it has not. -/
theorem prefix_of_append_cons (h : c ∉ part) (hpart : part <+: s ++ c :: t) :
    part <+: s := by
  rcases List.prefix_or_prefix_of_prefix hpart (List.prefix_append s (c :: t))
    with hshort | ⟨rest, rfl⟩
  · exact hshort
  · cases rest with
    | nil => simp
    | cons d more =>
        have hd := (List.cons_prefix_cons.mp
          ((List.prefix_append_right_inj s).mp hpart)).1
        exact absurd (List.mem_append_right s (hd ▸ List.mem_cons_self)) h

/-- What stands in a text stands on one side of a character that it has
not. -/
theorem infix_append_cons_iff (h : c ∉ part) :
    part <:+: s ++ c :: t ↔ part <:+: s ∨ part <:+: t := by
  constructor
  · intro hpart
    induction s with
    | nil =>
        rcases List.infix_cons_iff.mp hpart with hstart | hrest
        · exact Or.inl (prefix_of_append_cons (s := []) h hstart).isInfix
        · exact Or.inr hrest
    | cons d rest ih =>
        rcases List.infix_cons_iff.mp hpart with hstart | hrest
        · exact Or.inl (prefix_of_append_cons (s := d :: rest) h hstart).isInfix
        · exact (ih hrest).imp_left List.infix_cons
  · rintro (hs | ht)
    · exact hs.trans (List.prefix_append _ _).isInfix
    · exact ht.trans ((List.suffix_cons c t).trans
        (List.suffix_append s _)).isInfix

-- =============================================================== words

/-- No word has a blank in it, if what is read of the first one has none. -/
theorem isBlank_of_mem_wordsFrom {word s term : List Char}
    (hword : ∀ c ∈ word, isBlank c = false) (h : term ∈ wordsFrom word s) :
    ∀ c ∈ term, isBlank c = false := by
  have hread : ∀ c ∈ word.reverse, isBlank c = false :=
    fun c hc => hword c (List.mem_reverse.mp hc)
  have hnone : ∀ c ∈ ([] : List Char), isBlank c = false := nofun
  fun_induction wordsFrom word s with
  | case1 word _ => cases h
  | case2 word _ =>
      rw [List.mem_singleton.mp h]
      exact hread
  | case3 word c rest _ _ ih => exact ih hnone h hnone
  | case4 word c rest _ _ ih =>
      rcases List.mem_cons.mp h with rfl | h
      · exact hread
      · exact ih hnone h hnone
  | case5 word c rest hc ih =>
      have hmore : ∀ d ∈ c :: word, isBlank d = false :=
        List.forall_mem_cons.mpr ⟨Bool.eq_false_iff.mpr hc, hword⟩
      exact ih hmore h fun c hc => hmore c (List.mem_reverse.mp hc)

theorem isBlank_of_mem_words {s term : List Char} (h : term ∈ words s) :
    ∀ c ∈ term, isBlank c = false :=
  isBlank_of_mem_wordsFrom (fun _ hc => absurd hc List.not_mem_nil) h

theorem wordsFrom_append_blank {c : Char} (hc : isBlank c = true)
    (word s t : List Char) :
    wordsFrom word (s ++ c :: t) = wordsFrom word s ++ words t := by
  induction s generalizing word with
  | nil =>
      simp only [List.nil_append, wordsFrom, hc, if_true]
      split <;> rfl
  | cons d rest ih =>
      rw [List.cons_append, wordsFrom, wordsFrom]
      split
      · split
        · exact ih []
        · exact congrArg (word.reverse :: ·) (ih [])
      · exact ih (d :: word)

/-- The words of two texts with a blank between them are those of the one and
behind them those of the other. -/
theorem words_append_blank {c : Char} (hc : isBlank c = true)
    (s t : List Char) : words (s ++ c :: t) = words s ++ words t :=
  wordsFrom_append_blank hc [] s t

end Toolsmith.Text
