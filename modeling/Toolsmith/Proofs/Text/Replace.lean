/-
Replacing inside a text, step by step. A text is gone through from its start:
where the sought text begins, its replacement comes out and the search goes on
behind it; any other character comes out as it is. So a stretch of text in
which nothing that is sought begins comes out as a whole.

That much holds whether every occurrence is replaced or the first one alone.
`Copies` names it, and what follows from it is proved for both at once.
-/
import Toolsmith.Proofs.Text.Parts

namespace Toolsmith.Text

variable {old new : List Char}

/-- A text contains another one that stands in it somewhere. -/
theorem contains_iff_isInfix {part s : List Char} :
    contains part s = true ↔ part <:+: s := by
  induction s with
  | nil => rw [contains, List.isEmpty_iff, List.infix_nil]
  | cons c rest ih =>
      rw [contains, Bool.or_eq_true, ih, List.isPrefixOf_iff_prefix,
        List.infix_cons_iff]

/-- Characters that belong to an occurrence are passed over. -/
theorem replaceSkipping_eq (skip : Nat) (s : List Char) :
    replaceSkipping old new skip s = replace old new (s.drop skip) := by
  induction s generalizing skip with
  | nil => cases skip <;> rfl
  | cons c rest ih =>
      cases skip with
      | zero => rfl
      | succ n => exact ih n

/-- A character stays where what is sought does not begin. -/
theorem replace_cons_of_not_prefix {c : Char} {s : List Char}
    (h : ¬ old <+: c :: s) :
    replace old new (c :: s) = c :: replace old new s := by
  have hno : ¬ (!old.isEmpty && old.isPrefixOf (c :: s)) = true := by
    rw [Bool.and_eq_true, List.isPrefixOf_iff_prefix]
    exact fun hboth => h hboth.2
  exact if_neg hno

/-- The function copies a character at which what is sought does not
begin. -/
def Copies (old : List Char) (f : List Char → List Char) : Prop :=
  ∀ {c : Char} {s : List Char}, ¬ old <+: c :: s → f (c :: s) = c :: f s

theorem copies_replace : Copies old (replace old new) :=
  replace_cons_of_not_prefix

/-- So it copies a stretch of text in which what is sought does not begin. -/
theorem Copies.append {f : List Char → List Char} (hf : Copies old f)
    {s t : List Char}
    (h : ∀ part, part ≠ [] → part <:+ s → ¬ old <+: part ++ t) :
    f (s ++ t) = s ++ f t := by
  induction s with
  | nil => rfl
  | cons c rest ih =>
      have hhere : ¬ old <+: c :: (rest ++ t) :=
        h (c :: rest) (List.cons_ne_nil _ _) (List.suffix_refl _)
      have hrest := ih fun part hne hpart =>
        h part hne (hpart.trans (List.suffix_cons c rest))
      rw [List.cons_append, hf hhere, hrest, List.cons_append]

/-- It copies all of a text in which what is sought does not stand. -/
theorem Copies.eq_self {f : List Char → List Char} (hf : Copies old f)
    (hnil : f [] = []) {s : List Char} (h : ¬ old <:+: s) : f s = s := by
  have hcopy : f (s ++ []) = s ++ f [] := by
    refine hf.append fun part _ hpart hold => h ?_
    rw [List.append_nil] at hold
    exact hold.isInfix.trans hpart.isInfix
  rwa [hnil, List.append_nil] at hcopy

/-- An occurrence is replaced, and the search goes on behind it. -/
theorem replace_append_self (hne : old ≠ []) (s : List Char) :
    replace old new (old ++ s) = new ++ replace old new s := by
  cases old with
  | nil => exact absurd rfl hne
  | cons c rest =>
      have hyes : (!(c :: rest).isEmpty
          && (c :: rest).isPrefixOf (c :: (rest ++ s))) = true := by
        rw [Bool.and_eq_true, List.isPrefixOf_iff_prefix]
        exact ⟨rfl, List.prefix_append (c :: rest) s⟩
      have hdrop : (rest ++ s).drop ((c :: rest).length - 1) = s :=
        List.drop_left
      refine (if_pos hyes).trans ?_
      rw [List.append_eq, replaceSkipping_eq, hdrop]

/-- A stretch of text in which what is sought does not begin stays. -/
theorem replace_append_of_forall {s t : List Char}
    (h : ∀ part, part ≠ [] → part <:+ s → ¬ old <+: part ++ t) :
    replace old new (s ++ t) = s ++ replace old new t :=
  copies_replace.append h

/-- Behind such a stretch is every place of what is sought. -/
theorem infix_append_of_forall {s t : List Char}
    (h : ∀ part, part ≠ [] → part <:+ s → ¬ old <+: part ++ t) :
    old <:+: s ++ t ↔ old <:+: t := by
  induction s with
  | nil => rfl
  | cons c rest ih =>
      have hhere : ¬ old <+: c :: (rest ++ t) :=
        h (c :: rest) (List.cons_ne_nil _ _) (List.suffix_refl _)
      have hrest := ih fun part hne hpart =>
        h part hne (hpart.trans (List.suffix_cons c rest))
      rw [List.cons_append, List.infix_cons_iff, or_iff_right hhere, hrest]

/-- Where the sought text is not contained, nothing changes. -/
theorem replace_of_not_contains {s : List Char}
    (h : contains old s = false) : replace old new s = s := by
  refine copies_replace.eq_self rfl fun hold => ?_
  rw [contains_iff_isInfix.mpr hold] at h
  cases h

/-- Two texts are replaced in one by one if no occurrence begins in the first
and ends in the second. -/
theorem replace_append_of_inside (hne : old ≠ []) {s t : List Char}
    (h : ∀ part, part ≠ [] → part <:+ s → old <+: part ++ t →
      old <+: part) :
    replace old new (s ++ t) = replace old new s ++ replace old new t := by
  match s with
  | [] => rfl
  | c :: rest =>
    by_cases hhere : old <+: c :: (rest ++ t)
    · obtain ⟨behind, hbehind⟩ :=
        h (c :: rest) (List.cons_ne_nil _ _) (List.suffix_refl _) hhere
      have hshorter : behind.length < (c :: rest).length := by
        rw [← hbehind, List.length_append]
        have := List.length_pos_iff.mpr hne
        omega
      have hsuffix : behind <:+ c :: rest := ⟨old, hbehind⟩
      have hrest : replace old new (behind ++ t)
          = replace old new behind ++ replace old new t :=
        replace_append_of_inside hne fun part hpne hpart =>
          h part hpne (hpart.trans hsuffix)
      rw [← hbehind, List.append_assoc, replace_append_self hne,
        replace_append_self hne, hrest, List.append_assoc]
    · have hstart : ¬ old <+: c :: rest :=
        fun hold => hhere (hold.trans (List.prefix_append _ t))
      have hrest : replace old new (rest ++ t)
          = replace old new rest ++ replace old new t :=
        replace_append_of_inside hne fun part hpne hpart =>
          h part hpne (hpart.trans (List.suffix_cons c rest))
      rw [List.cons_append, replace_cons_of_not_prefix hhere,
        replace_cons_of_not_prefix hstart, hrest, List.cons_append]
  termination_by s.length
  decreasing_by
    · exact hshorter
    · exact Nat.lt_succ_self rest.length

/-- Where what is sought stands in a text, its replacement comes out. -/
theorem infix_replace (hne : old ≠ []) (new : List Char) {s : List Char}
    (h : old <:+: s) : new <:+: replace old new s := by
  induction s with
  | nil => exact absurd (List.infix_nil.mp h) hne
  | cons c rest ih =>
      by_cases hhere : old <+: c :: rest
      · obtain ⟨behind, hbehind⟩ := hhere
        rw [← hbehind, replace_append_self hne]
        exact (List.prefix_append _ _).isInfix
      · rw [copies_replace hhere]
        have hrest := ih ((List.infix_cons_iff.mp h).resolve_left hhere)
        exact hrest.trans (List.suffix_cons c _).isInfix

-- ==================================================== first occurrence

theorem cut?_cons_of_not_prefix {c : Char} {s : List Char}
    (h : ¬ old <+: c :: s) :
    cut? old (c :: s)
      = (cut? old s).map fun (before, rest) => (c :: before, rest) := by
  have hafter : after? old (c :: s) = none := by
    rw [Option.eq_none_iff_forall_ne_some]
    exact fun rest hrest => h ⟨rest, (after?_eq_some_iff.mp hrest).symm⟩
  rw [cut?, hafter]

/-- A character in front of the first occurrence stays. -/
theorem copies_replaceFirst : Copies old (replaceFirst old new) := by
  intro c s h
  rw [replaceFirst, replaceFirst, cut?_cons_of_not_prefix h]
  cases cut? old s <;> rfl

/-- The first occurrence is replaced, and nothing behind it. -/
theorem replaceFirst_append_self (hne : old ≠ []) (s : List Char) :
    replaceFirst old new (old ++ s) = new ++ s := by
  cases old with
  | nil => exact absurd rfl hne
  | cons c rest =>
      have hafter : after? (c :: rest) (c :: (rest ++ s)) = some s :=
        after?_eq_some_iff.mpr rfl
      rw [replaceFirst, List.cons_append, cut?, hafter]
      rfl

theorem replaceFirst_nil (hne : old ≠ []) : replaceFirst old new [] = [] := by
  cases old with
  | nil => exact absurd rfl hne
  | cons _ _ => rfl

/-- The text gets no longer than by what is put in. -/
theorem length_replaceFirst_le (hne : old ≠ []) (new s : List Char) :
    (replaceFirst old new s).length ≤ s.length + new.length := by
  induction s with
  | nil =>
      rw [replaceFirst_nil hne]
      exact Nat.zero_le _
  | cons c rest ih =>
      by_cases hhere : old <+: c :: rest
      · obtain ⟨behind, hbehind⟩ := hhere
        rw [← hbehind, replaceFirst_append_self hne, List.length_append,
          List.length_append]
        omega
      · rw [copies_replaceFirst hhere, List.length_cons, List.length_cons]
        omega

/-- One character in the place of another. -/
theorem replace_singleton (a b : Char) (s : List Char) :
    replace [a] [b] s = s.map fun c => if c == a then b else c := by
  induction s with
  | nil => rfl
  | cons c rest ih =>
      rw [List.map_cons, ← ih]
      by_cases hc : c = a
      · rw [hc, if_pos (beq_self_eq_true a)]
        exact replace_append_self (List.cons_ne_nil _ _) rest
      · rw [if_neg (by simpa using hc)]
        refine replace_cons_of_not_prefix fun hold => hc ?_
        exact (List.cons_prefix_cons.mp hold).1.symm

end Toolsmith.Text
