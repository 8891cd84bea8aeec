/-
Names are identifiers and repetitions are told apart. Two facts carry this
file.

A name that `sanitize` or `toIdentifier` makes keeps to the letters, digits
and underscores, and what numbering adds behind it (an underscore and
decimal digits) keeps to them too; so whatever made a name, it is still an
identifier after `deduplicate`.

The search for a free number always ends on one. Its bound is one more than
the number of taken names, and names with different numbers differ, so not
all of the names that the search tries can be taken. From this
`deduplicate` never makes a name that it has made or will keep, and the
names it gives are pairwise distinct.
-/
import Mathlib.Data.List.Nodup
import Mathlib.Data.List.Perm.Subperm
import Std.Data.String.ToNat
import Toolsmith.Naming

namespace Toolsmith.Naming

open Text

-- ========================================================= identifiers

/-- A letter or an underscore, then letters, digits and underscores. -/
def isIdentifier : List Char → Bool
  | [] => false
  | c :: rest => (isAsciiLetter c || c == '_') && rest.all isNameChar

/-- A decimal digit is a digit character of a name. -/
theorem isNameChar_of_isAsciiDigit {c : Char} (h : isAsciiDigit c = true) :
    isNameChar c = true := by
  unfold isNameChar
  rw [h, Bool.or_true, Bool.true_or]

/-- A character of a name that is no digit may stand in front. -/
theorem isLead_of_isNameChar {c : Char} (h : isNameChar c = true)
    (hd : isAsciiDigit c = false) :
    (isAsciiLetter c || c == '_') = true := by
  unfold isNameChar at h
  rw [hd, Bool.or_false] at h
  exact h

/-- What may stand in front of a name may stand in it. -/
theorem isNameChar_of_isLead {c : Char}
    (h : (isAsciiLetter c || c == '_') = true) : isNameChar c = true := by
  unfold isNameChar
  rcases Bool.or_eq_true_iff.mp h with h | h
  · rw [h, Bool.true_or, Bool.true_or]
  · rw [h, Bool.or_true]

/-- An identifier holds nothing but characters of names. -/
theorem all_isNameChar_of_isIdentifier {s : List Char}
    (h : isIdentifier s = true) : s.all isNameChar = true := by
  cases s with
  | nil => cases h
  | cons c rest =>
      obtain ⟨hc, hrest⟩ := Bool.and_eq_true_iff.mp h
      rw [List.all_cons, isNameChar_of_isLead hc, hrest, Bool.and_true]

/-- Characters of names behind an identifier make an identifier. -/
theorem isIdentifier_append {s t : List Char} (hs : isIdentifier s = true)
    (ht : t.all isNameChar = true) : isIdentifier (s ++ t) = true := by
  cases s with
  | nil => cases hs
  | cons c rest =>
      obtain ⟨hc, hrest⟩ := Bool.and_eq_true_iff.mp hs
      show ((isAsciiLetter c || c == '_') && (rest ++ t).all isNameChar)
        = true
      rw [hc, List.all_append, hrest, ht]
      rfl

-- ============================================================ sanitize

/-- Every character of a sanitized text may stand in a name. -/
theorem isNameChar_nameChar (c : Char) : isNameChar (nameChar c) = true := by
  unfold nameChar
  split
  case isTrue h => exact h
  case isFalse => decide

/-- A character of a name stands for itself. -/
theorem nameChar_eq_self {c : Char} (h : isNameChar c = true) :
    nameChar c = c :=
  if_pos h

/-- Squeezing drops characters and makes none. -/
theorem all_squeezeFrom {p : Char → Bool} {s : List Char}
    (h : s.all p = true) : ∀ after, (squeezeFrom after s).all p = true := by
  induction s with
  | nil => intro after; rfl
  | cons c rest ih =>
      intro after
      obtain ⟨hc, hrest⟩ := Bool.and_eq_true_iff.mp
        (List.all_cons (f := p) ▸ h)
      unfold squeezeFrom
      split
      · exact ih hrest true
      · rw [List.all_cons, hc, ih hrest]
        rfl

/-- The first character stays unless it is an underscore that follows
another one. -/
theorem head?_squeezeFrom_false (s : List Char) :
    (squeezeFrom false s).head? = s.head? := by
  cases s with
  | nil => rfl
  | cons c rest => simp [squeezeFrom]

/-- A sanitized text holds nothing but characters of names. -/
theorem all_sanitize (s : List Char) :
    (sanitize s).all isNameChar = true := by
  refine all_squeezeFrom ?_ false
  rw [List.all_map]
  exact List.all_eq_true.mpr fun c _ => isNameChar_nameChar c

/-- A sanitized text begins with what its first character becomes. -/
theorem head?_sanitize (s : List Char) :
    (sanitize s).head? = s.head?.map nameChar := by
  unfold sanitize squeeze
  rw [head?_squeezeFrom_false, List.head?_map]

/-- A text that begins with a letter is sanitized to an identifier. -/
theorem isIdentifier_sanitize {c : Char} {s : List Char}
    (hc : isAsciiLetter c = true) :
    isIdentifier (sanitize (c :: s)) = true := by
  have hname : nameChar c = c :=
    nameChar_eq_self (isNameChar_of_isLead (by rw [hc]; rfl))
  have hhead := head?_sanitize (c :: s)
  have hall := all_sanitize (c :: s)
  cases hs : sanitize (c :: s) with
  | nil => rw [hs] at hhead; cases hhead
  | cons d rest =>
      rw [hs] at hhead hall
      have hd : d = c := by
        simpa [hname] using hhead
      rw [List.all_cons] at hall
      show ((isAsciiLetter d || d == '_') && rest.all isNameChar) = true
      rw [hd, hc, (Bool.and_eq_true_iff.mp hall).2]
      rfl

/-- Only the empty text is sanitized to the empty text. -/
theorem sanitize_ne_nil {s : List Char} (h : s ≠ []) : sanitize s ≠ [] := by
  cases s with
  | nil => exact absurd rfl h
  | cons c rest =>
      intro hs
      have hhead := head?_sanitize (c :: rest)
      rw [hs] at hhead
      cases hhead

/-- A text that is not empty becomes an identifier: an underscore goes in
front where the sanitized text begins with a digit. -/
theorem isIdentifier_toIdentifier {s : List Char} (h : s ≠ []) :
    isIdentifier (toIdentifier s) = true := by
  have hall := all_sanitize s
  have hne := sanitize_ne_nil h
  unfold toIdentifier
  cases hs : sanitize s with
  | nil => exact absurd hs hne
  | cons c rest =>
      rw [hs] at hall
      cases hd : isAsciiDigit c with
      | true =>
          show isIdentifier (if isAsciiDigit c then _ else _) = true
          rw [hd]
          exact hall
      | false =>
          show isIdentifier (if isAsciiDigit c then _ else _) = true
          rw [hd]
          rw [List.all_cons] at hall
          obtain ⟨hc, hrest⟩ := Bool.and_eq_true_iff.mp hall
          show ((isAsciiLetter c || c == '_') && rest.all isNameChar) = true
          rw [isLead_of_isNameChar hc hd, hrest]
          rfl

/-- Behind an underscore a squeezed text does not begin with one. -/
theorem head?_squeezeFrom_true (s : List Char) :
    (squeezeFrom true s).head? ≠ some '_' := by
  induction s with
  | nil => exact (Option.some_ne_none _).symm
  | cons c rest ih =>
      unfold squeezeFrom
      split
      case isTrue => exact ih
      case isFalse h =>
          rw [List.head?_cons]
          simpa using h

/-- No two underscores of a squeezed text are adjacent. -/
theorem not_infix_squeezeFrom (s : List Char) :
    ∀ after, ¬ ['_', '_'] <:+: squeezeFrom after s := by
  induction s with
  | nil => intro after h; cases List.infix_nil.mp h
  | cons c rest ih =>
      intro after h
      unfold squeezeFrom at h
      split at h
      case isTrue => exact ih true h
      case isFalse =>
          rcases List.infix_cons_iff.mp h with hprefix | hrest
          · obtain ⟨rfl, behind, hbehind⟩ := List.cons_prefix_cons.mp hprefix
            have hnext : '_' :: behind = squeezeFrom true rest := hbehind
            have hhead := head?_squeezeFrom_true rest
            rw [← hnext] at hhead
            exact hhead rfl
          · exact ih _ hrest

/-- No two underscores of a sanitized text are adjacent. -/
theorem not_infix_sanitize (s : List Char) : ¬ ['_', '_'] <:+: sanitize s :=
  not_infix_squeezeFrom _ false

/-- No two underscores of a made name are adjacent: the one in front has a
digit behind it. -/
theorem not_infix_toIdentifier (s : List Char) :
    ¬ ['_', '_'] <:+: toIdentifier s := by
  have hname := not_infix_sanitize s
  unfold toIdentifier
  dsimp only
  split
  case isTrue hdigit =>
      intro h
      rcases List.infix_cons_iff.mp h with hprefix | hrest
      · obtain ⟨-, behind, hbehind⟩ := List.cons_prefix_cons.mp hprefix
        rw [← hbehind] at hdigit
        exact absurd hdigit Bool.false_ne_true
      · exact hname hrest
  case isFalse => exact hname

/-- A word without underscores stays in front of a sanitized text. -/
theorem prefix_sanitize {word : List Char}
    (h : ∀ c ∈ word, isNameChar c = true ∧ c ≠ '_') (s : List Char) :
    word <+: sanitize (word ++ s) := by
  unfold sanitize squeeze
  generalize false = after
  induction word generalizing after with
  | nil => exact List.nil_prefix
  | cons c rest ih =>
      obtain ⟨⟨hname, hc⟩, hrest⟩ := List.forall_mem_cons.mp h
      have hword : (c == '_') = false := beq_eq_false_iff_ne.mpr hc
      rw [List.cons_append, List.map_cons, nameChar_eq_self hname, squeezeFrom,
        hword]
      exact List.cons_prefix_cons.mpr ⟨rfl, ih hrest false⟩

-- ============================================================ numbering

/-- A number is written in decimal digits. -/
theorem isAsciiDigit_of_mem_decimalText {n : Nat} {c : Char}
    (h : c ∈ decimalText n) : isAsciiDigit c = true := by
  unfold decimalText at h
  rw [Nat.toList_repr] at h
  have hdigit := Nat.isDigit_of_mem_toDigits (by decide) (by decide) h
  simpa [isAsciiDigit, Char.isDigit, Char.le_def] using hdigit

/-- Decimal digits may stand in a name. -/
theorem all_decimalText (n : Nat) :
    (decimalText n).all isNameChar = true :=
  List.all_eq_true.mpr fun _ hc =>
    isNameChar_of_isAsciiDigit (isAsciiDigit_of_mem_decimalText hc)

/-- A number behind an identifier leaves an identifier. -/
theorem isIdentifier_numbered {name : List Char} (n : Nat)
    (h : isIdentifier name = true) :
    isIdentifier (numbered name n) = true := by
  refine isIdentifier_append h ?_
  rw [List.all_cons, all_decimalText]
  rfl

/-- No two underscores of the name are adjacent, unless it ends in a
digit. -/
def IsSqueezed (name : List Char) : Prop :=
  ['_', '_'] <:+: name → ∃ c, name.getLast? = some c ∧ isAsciiDigit c = true

/-- A number puts a digit at the end of a name. -/
theorem isSqueezed_numbered (name : List Char) (n : Nat) :
    IsSqueezed (numbered name n) := by
  have hne : decimalText n ≠ [] := by
    unfold decimalText
    rw [Nat.toList_repr]
    exact Nat.toDigits_ne_nil
  refine fun _ => ⟨(decimalText n).getLast hne, ?_,
    isAsciiDigit_of_mem_decimalText (List.getLast_mem hne)⟩
  unfold numbered
  rw [List.getLast?_append_cons, List.getLast?_cons_of_ne_nil hne,
    List.getLast?_eq_some_getLast hne]

/-- Different numbers make different names. -/
theorem numbered_injective (name : List Char) :
    Function.Injective (numbered name) := by
  intro m n h
  have hdigits : decimalText m = decimalText n := by
    simpa [numbered] using h
  exact Nat.repr_injective (String.toList_injective hdigits)

/-- Where the search finds no free number, it has tried as many taken names
as its bound says. -/
theorem mem_of_freeNumber_mem {taken : List (List Char)}
    {name : List Char} :
    ∀ (fuel n : Nat),
      numbered name (freeNumber taken name fuel n) ∈ taken →
      ∀ k, n ≤ k → k ≤ n + fuel → numbered name k ∈ taken := by
  intro fuel
  induction fuel with
  | zero =>
      intro n hmem k hle hge
      have hk : k = n := by omega
      rw [hk]
      exact hmem
  | succ fuel ih =>
      intro n hmem k hle hge
      unfold freeNumber at hmem
      split at hmem
      case isTrue htaken =>
          by_cases hk : k = n
          · rw [hk]
            exact List.contains_iff_mem.mp htaken
          · exact ih (n + 1) hmem k (by omega) (by omega)
      case isFalse hfree =>
          exact absurd (List.contains_iff_mem.mpr hmem) hfree

/-- The search ends on a free number: a bound of one more than the number
of taken names leaves more names to try than there are taken ones. -/
theorem numbered_freeNumber_not_mem (taken : List (List Char))
    (name : List Char) (n : Nat) :
    numbered name (freeNumber taken name (taken.length + 1) n)
      ∉ taken := by
  intro hmem
  have htried := mem_of_freeNumber_mem (taken.length + 1) n hmem
  have hsub : ((List.range' n (taken.length + 1)).map (numbered name))
      ⊆ taken := by
    intro made hmade
    obtain ⟨k, hk, rfl⟩ := List.mem_map.mp hmade
    have hrange := List.mem_range'_1.mp hk
    exact htried k hrange.1 (by omega)
  have hnodup : ((List.range' n (taken.length + 1)).map
      (numbered name)).Nodup :=
    (List.nodup_range' ..).map (numbered_injective name)
  have hlen := (List.subperm_of_subset hnodup hsub).length_le
  rw [List.length_map, List.length_range'] at hlen
  omega

-- ========================================================== repetitions

/-- A name has a count as soon as one is noted for it. -/
theorem countOf_cons_self (counts : List (List Char × Nat))
    (name : List Char) (n : Nat) :
    countOf ((name, n) :: counts) name = some n := by
  simp [countOf]

/-- A count for one name is none for another. -/
theorem countOf_cons_ne {counts : List (List Char × Nat)}
    {name other : List Char} (n : Nat) (h : name ≠ other) :
    countOf ((name, n) :: counts) other = countOf counts other := by
  simp [countOf, h]

/-- Where a name comes from: it is one of the list's, met for the first
time, or one that was not taken before. -/
theorem mem_deduplicateFrom {names : List (List Char)} :
    ∀ {taken : List (List Char)} {counts : List (List Char × Nat)}
      {made : List Char},
      made ∈ deduplicateFrom taken counts names →
      (made ∈ names ∧ countOf counts made = none) ∨ made ∉ taken := by
  induction names with
  | nil => intro taken counts made h; cases h
  | cons name rest ih =>
      intro taken counts made h
      unfold deduplicateFrom at h
      cases hcount : countOf counts name with
      | none =>
          rw [hcount] at h
          rcases List.mem_cons.mp h with rfl | hrest
          · exact Or.inl ⟨List.mem_cons_self, hcount⟩
          · rcases ih hrest with ⟨hmem, hnone⟩ | hfree
            · have hne : name ≠ made := by
                rintro rfl
                rw [countOf_cons_self] at hnone
                cases hnone
              rw [countOf_cons_ne 1 hne] at hnone
              exact Or.inl ⟨List.mem_cons_of_mem _ hmem, hnone⟩
            · exact Or.inr hfree
      | some last =>
          rw [hcount] at h
          rcases List.mem_cons.mp h with rfl | hrest
          · exact Or.inr (numbered_freeNumber_not_mem taken name _)
          · rcases ih hrest with ⟨hmem, hnone⟩ | hfree
            · have hne : name ≠ made := by
                rintro rfl
                rw [countOf_cons_self] at hnone
                cases hnone
              rw [countOf_cons_ne _ hne] at hnone
              exact Or.inl ⟨List.mem_cons_of_mem _ hmem, hnone⟩
            · exact Or.inr fun hmem =>
                hfree (List.mem_cons_of_mem _ hmem)

/-- The names given to a part of a list are distinct, if the names of that
part count as taken. -/
theorem nodup_deduplicateFrom {names : List (List Char)} :
    ∀ {taken : List (List Char)} {counts : List (List Char × Nat)},
      names ⊆ taken → (deduplicateFrom taken counts names).Nodup := by
  induction names with
  | nil => intro taken counts _; exact List.nodup_nil
  | cons name rest ih =>
      intro taken counts hsub
      have htaken : name ∈ taken := hsub List.mem_cons_self
      have hrest : rest ⊆ taken :=
        fun x hx => hsub (List.mem_cons_of_mem _ hx)
      unfold deduplicateFrom
      cases hcount : countOf counts name with
      | none =>
          refine List.nodup_cons.mpr ⟨fun hmem => ?_, ih hrest⟩
          rcases mem_deduplicateFrom hmem with ⟨-, hnone⟩ | hfree
          · rw [countOf_cons_self] at hnone
            cases hnone
          · exact hfree htaken
      | some last =>
          have hnew := numbered_freeNumber_not_mem taken name (last + 1)
          refine List.nodup_cons.mpr ⟨fun hmem => ?_, ih fun x hx =>
            List.mem_cons_of_mem _ (hrest hx)⟩
          rcases mem_deduplicateFrom hmem with ⟨hmem, -⟩ | hfree
          · exact hnew (hrest hmem)
          · exact hfree List.mem_cons_self

/-- Numbered or not, the names of a list become pairwise distinct. -/
theorem nodup_deduplicate (names : List (List Char)) :
    (deduplicate names).Nodup :=
  nodup_deduplicateFrom fun _ h => h

/-- Names keep what numbering keeps. -/
theorem forall_deduplicateFrom {p : List Char → Prop}
    (hnumbered : ∀ name n, p name → p (numbered name n))
    {names : List (List Char)} :
    ∀ {taken : List (List Char)} {counts : List (List Char × Nat)},
      (∀ name ∈ names, p name) →
      ∀ made ∈ deduplicateFrom taken counts names, p made := by
  induction names with
  | nil => intro taken counts _ made h; cases h
  | cons name rest ih =>
      intro taken counts hp made h
      have hname := hp name List.mem_cons_self
      have hrest : ∀ x ∈ rest, p x :=
        fun x hx => hp x (List.mem_cons_of_mem _ hx)
      unfold deduplicateFrom at h
      cases hcount : countOf counts name with
      | none =>
          rw [hcount] at h
          rcases List.mem_cons.mp h with rfl | h
          · exact hname
          · exact ih hrest made h
      | some last =>
          rw [hcount] at h
          rcases List.mem_cons.mp h with rfl | h
          · exact hnumbered _ _ hname
          · exact ih hrest made h

/-- Identifiers stay identifiers. -/
theorem isIdentifier_deduplicate (names : List (List Char))
    (h : ∀ name ∈ names, isIdentifier name = true) :
    ∀ made ∈ deduplicate names, isIdentifier made = true :=
  forall_deduplicateFrom (fun _ n => isIdentifier_numbered n) h

/-- Names stay squeezed. -/
theorem isSqueezed_deduplicate (names : List (List Char))
    (h : ∀ name ∈ names, IsSqueezed name) :
    ∀ made ∈ deduplicate names, IsSqueezed made :=
  forall_deduplicateFrom (fun name n _ => isSqueezed_numbered name n) h

/-- As many names come out as go in. -/
theorem length_deduplicateFrom {names : List (List Char)} :
    ∀ (taken : List (List Char)) (counts : List (List Char × Nat)),
      (deduplicateFrom taken counts names).length = names.length := by
  induction names with
  | nil => intro taken counts; rfl
  | cons name rest ih =>
      intro taken counts
      unfold deduplicateFrom
      cases countOf counts name with
      | none => exact congrArg (· + 1) (ih _ _)
      | some last => exact congrArg (· + 1) (ih _ _)

theorem length_deduplicate (names : List (List Char)) :
    (deduplicate names).length = names.length :=
  length_deduplicateFrom names []

end Toolsmith.Naming
