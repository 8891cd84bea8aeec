/-
Texts of a document that cannot leave their comment. Every line of a comment
begins with its mark, down to the last character that is no blank, and there
are as many lines as the text has. No line of a block comment holds the mark
that ends it: the text has been taken apart, and the template puts a blank in
front of it. So the head comment of a JavaScript source, with the title and the
description in it, ends at the row that the template has for that.
-/
import Toolsmith.Generate.JavaScript
import Toolsmith.Proofs.Generate.Comment
import Toolsmith.Proofs.Text.Lines

namespace Toolsmith.Generate

open Text
-- ================================================================ lines

/-- A character is copied, unless it begins a mark that ends a block
comment. -/
theorem defused_cons {c : Char} {s : List Char}
    (h : ¬ (c = '*' ∧ s.head? = some '/')) :
    defused (c :: s) = c :: defused s :=
  replace_cons_of_not_prefix fun hmark => h (mark_prefix_cons.mp hmark)

/-- Taking a text apart keeps its lines. -/
theorem length_lines_defused (s : List Char) :
    (lines (defused s)).length = (lines s).length := by
  fun_induction lines s with
  | case1 => rfl
  | case2 rest ih =>
      rw [defused_cons (by simp), defused_cons (by simp), lines,
        List.length_cons, List.length_cons, ih]
  | case3 c rest hfeed hbreak ih =>
      have hstar : c ≠ '*' := by
        rintro rfl
        cases hbreak
      have hhead := (defused_spec rest.length rest (Nat.le_refl _)).1
      rw [defused_cons fun h => hstar h.1, lines, if_pos hbreak,
        List.length_cons, List.length_cons, ih]
      -- a line feed that follows now followed before
      intro more hc hmore
      rw [hmore, List.head?_cons] at hhead
      obtain ⟨tail, rfl⟩ := List.head?_eq_some_iff.mp hhead.symm
      exact hfeed tail hc rfl
  | case4 c rest hfeed hbreak ih =>
      have hc : isLineBreak c = false := Bool.eq_false_iff.mpr hbreak
      by_cases hmark : c = '*' ∧ rest.head? = some '/'
      · obtain ⟨rfl, hhead⟩ := hmark
        obtain ⟨tail, rfl⟩ := List.head?_eq_some_iff.mp hhead
        have hslash : defused ('/' :: tail) = '/' :: defused tail :=
          defused_cons (by simp)
        have hdefused : defused ('*' :: '/' :: tail)
            = '*' :: ' ' :: defused ('/' :: tail) := by
          rw [hslash]
          exact replace_append_self (by decide) tail
        rw [hdefused, lines_cons_of_not_break hc,
          lines_cons_of_not_break (by decide), length_consLine,
          length_consLine, length_consLine, ih]
        omega
      · rw [defused_cons hmark, lines_cons_of_not_break hc, length_consLine,
          length_consLine, ih]

-- ============================================================== comments

/-- The mark of a comment: a text without breaks, with something in it that is
no blank. `stem` is the mark without the blanks at its end. -/
structure Marks (mark stem : List Char) : Prop where
  plain : ∀ c ∈ mark, isLineBreak c = false
  stem : ∃ start x rest, isBlank x = false ∧ stem = start ++ [x]
    ∧ mark = stem ++ rest

variable {mark stem : List Char}

theorem Marks.prefix_of_mem (h : Marks mark stem) {s line : List Char}
    (hline : line ∈ commentLines mark s) : stem <+: line := by
  obtain ⟨start, x, rest, hx, rfl, rfl⟩ := h.stem
  obtain ⟨part, -, rfl⟩ := List.mem_map.mp hline
  rw [List.append_assoc]
  exact prefix_stripRight hx start (rest ++ part)

/-- The lines of a comment are those that it is put together of. -/
theorem Marks.lines_comment (h : Marks mark stem) (s : List Char) :
    lines (comment mark s) = commentLines mark s := by
  refine lines_join (fun line hline hnil => ?_) fun line hline c hc => ?_
  · obtain ⟨start, x, _, -, rfl, -⟩ := h.stem
    have hstem := h.prefix_of_mem hline
    rw [hnil, List.prefix_nil] at hstem
    simp at hstem
  · obtain ⟨part, hstart, -, hpart⟩ := exists_of_mem_commentLines hline
    rcases List.mem_append.mp (hstart.subset hc) with hc | hc
    · exact h.plain c hc
    · exact hpart c hc

/-- There are as many lines as in the text, or one. -/
theorem length_commentLines (mark s : List Char) :
    (commentLines mark s).length = max 1 (lines s).length := by
  have hlines := length_lines_defused s
  unfold commentLines
  dsimp only
  rw [List.length_map]
  split
  next hnil =>
    rw [List.isEmpty_iff.mp hnil] at hlines
    rw [← hlines]
    rfl
  next hsome =>
    rw [← hlines]
    have := List.length_pos_iff.mpr fun h => hsome (List.isEmpty_iff.mpr h)
    omega

/-- No line of a block comment ends it. -/
theorem not_infix_of_mem_commentLines {s line : List Char}
    (h : line ∈ commentLines " * ".toList s) : ¬ "*/".toList <:+: line := by
  obtain ⟨part, hstart, hpart, -⟩ := exists_of_mem_commentLines h
  intro hmark
  have hline := hmark.trans hstart.isInfix
  -- the star of the mark in front of the part has a blank behind it
  rcases (infix_append_cons_iff (s := " *".toList) (c := ' ')
    (by decide)).mp hline with hfront | hback
  · exact absurd hfront (by decide)
  · exact not_infix_defused s (hback.trans hpart)

-- ============================================================== sources

/-- What holds no break stands in one of the lines of a source. -/
theorem exists_infix_of_render {part : List Char} (hne : part ≠ [])
    (hfeed : '\n' ∉ part) {all : Lines}
    (h : part <:+: (render all).toList) : ∃ line ∈ all, part <:+: line := by
  unfold render at h
  rw [String.toList_ofList] at h
  induction all with
  | nil => exact absurd (List.infix_nil.mp h) hne
  | cons line rest ih =>
      rw [List.flatMap_cons, List.append_assoc, List.singleton_append] at h
      rcases (infix_append_cons_iff hfeed).mp h with hline | hrest
      · exact ⟨line, List.mem_cons_self, hline⟩
      · obtain ⟨other, hmem, hother⟩ := ih hrest
        exact ⟨other, List.mem_cons_of_mem _ hmem, hother⟩

namespace JavaScript

/-- The rows of a source in front of the one that ends its head comment. -/
def opening (s : Server) : Lines :=
  fixed ["#!/usr/bin/env node", "", "/**"]
    ++ [" * MCP Server for ".toList ++ defused s.name.toList]
    ++ fixed [" * Generated from Swagger/OpenAPI specification", " *"]
    ++ commentLines " * ".toList s.description.toList

/-- None of these rows ends the comment. -/
theorem not_infix_of_mem_opening {s : Server} {line : List Char}
    (h : line ∈ opening s) : ¬ "*/".toList <:+: line := by
  have hfixed : ∀ line ∈ fixed ["#!/usr/bin/env node", "", "/**"]
      ++ fixed [" * Generated from Swagger/OpenAPI specification", " *"],
      contains "*/".toList line = false := by
    decide +kernel
  unfold opening at h
  rcases List.mem_append.mp h with h | hcomment
  · rcases List.mem_append.mp h with h | hbelow
    · rcases List.mem_append.mp h with habove | htitle
      · have hnone := hfixed line (List.mem_append_left _ habove)
        rwa [← contains_iff_isInfix, Bool.not_eq_true]
      · rw [List.mem_singleton.mp htitle]
        intro hmark
        rcases (infix_append_cons_iff (s := " * MCP Server for".toList)
          (c := ' ') (by decide)).mp hmark with hfront | hback
        · rw [← contains_iff_isInfix] at hfront
          exact absurd hfront (by decide +kernel)
        · exact not_infix_defused _ hback
    · have hnone := hfixed line (List.mem_append_right _ hbelow)
      rwa [← contains_iff_isInfix, Bool.not_eq_true]
  · exact not_infix_of_mem_commentLines hcomment

/-- The source is these rows, the row that ends the comment, and others. -/
theorem exists_source_eq (s : Server) :
    ∃ behind : Lines, (source s).toList
      = (render (opening s)).toList ++ " */\n".toList
        ++ (render behind).toList := by
  have hlines : ∃ behind : Lines, lines s
      = fixed ["#!/usr/bin/env node", "", "/**"]
        ++ [" * MCP Server for ".toList ++ defused s.name.toList]
        ++ fixed [" * Generated from Swagger/OpenAPI specification", " *"]
        ++ [comment " * ".toList s.description.toList]
        ++ [" */".toList] ++ behind := by
    simp only [lines, head, imports, fixed, List.map_cons, List.append_assoc,
      List.cons_append, List.nil_append, List.map_nil]
    exact ⟨_, rfl⟩
  have hcomment := join_append_break
    (commentLines_ne_nil " * ".toList s.description.toList)
  obtain ⟨behind, hbehind⟩ := hlines
  refine ⟨behind, ?_⟩
  unfold source render
  rw [hbehind]
  simp only [String.toList_ofList, opening, List.flatMap_append,
    List.flatMap_singleton, comment, hcomment]
  rfl

end JavaScript

/-- The mark of a block comment holds no break and ends in a star and a
blank. -/
theorem marks_block : Marks " * ".toList " *".toList :=
  ⟨by simp [isLineBreak], [' '], '*', [' '], by decide, rfl, rfl⟩

/-- The mark of a comment on one row holds no break, either. -/
theorem marks_row : Marks "# ".toList "#".toList :=
  ⟨by simp [isLineBreak], [], '#', [' '], by decide, rfl, rfl⟩

/-- No mark that ends a block comment comes out of one. -/
theorem not_infix_comment (s : List Char) :
    ¬ "*/".toList <:+: comment " * ".toList s := by
  intro hmark
  have hrows : (render (commentLines " * ".toList s)).toList
      = comment " * ".toList s ++ ['\n'] := by
    unfold render comment
    rw [String.toList_ofList, join_append_break (commentLines_ne_nil _ s)]
  obtain ⟨line, hline, hinside⟩ := exists_infix_of_render (by decide)
    (by decide) (hrows ▸ hmark.trans (List.prefix_append _ _).isInfix)
  exact not_infix_of_mem_commentLines hline hinside

/-- Whatever the text, every line of a comment begins with the mark of the
comment, there are as many as the text has, or one, and no block comment holds
the mark that would end it. So in the JavaScript source of any server the first
such mark is the one that the template puts on a row of its own behind the title
and the description. -/
theorem texts_stay_in_comments :
    (∀ s : List Char,
        (∀ line ∈ lines (comment " * ".toList s), " *".toList <+: line)
          ∧ (∀ line ∈ lines (comment "# ".toList s), "#".toList <+: line)
          ∧ (lines (comment " * ".toList s)).length = max 1 (lines s).length
          ∧ (lines (comment "# ".toList s)).length = max 1 (lines s).length
          ∧ ¬ "*/".toList <:+: comment " * ".toList s)
      ∧ ∀ s : Server, ∃ behind : Lines,
          (JavaScript.source s).toList
              = (render (JavaScript.opening s)).toList ++ " */\n".toList
                ++ (render behind).toList
            ∧ ¬ "*/".toList
              <:+: (render (JavaScript.opening s)).toList ++ " *".toList := by
  refine ⟨fun s => ?_, fun s => ?_⟩
  · rw [marks_block.lines_comment, marks_row.lines_comment]
    exact ⟨fun _ => marks_block.prefix_of_mem,
      fun _ => marks_row.prefix_of_mem, length_commentLines _ s,
      length_commentLines _ s, not_infix_comment s⟩
  · obtain ⟨behind, hsource⟩ := JavaScript.exists_source_eq s
    refine ⟨behind, hsource, fun hmark => ?_⟩
    rcases (infix_append_cons_iff (c := ' ') (t := ['*']) (by decide)).mp hmark
      with hrows | hstar
    · obtain ⟨line, hline, hinside⟩ :=
        exists_infix_of_render (by decide) (by decide) hrows
      exact JavaScript.not_infix_of_mem_opening hline hinside
    · exact absurd hstar.length_le (by decide)

end Toolsmith.Generate
