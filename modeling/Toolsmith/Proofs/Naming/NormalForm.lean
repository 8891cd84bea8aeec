/-
Sanitizing brings a text into a normal form. A sanitized text is clean: it is
made of characters of names, and no two of its underscores are adjacent. A clean
text stays as it is, so these are the sanitized texts and no others.

Texts may be sanitized part by part. A run of underscores can begin in one part
and go on in the next, and all that squeezing has to know of the part in front
is whether an underscore ends it. `trails` says so. It is the same for a part
and for what the part is squeezed to, and a part that is squeezed already is
squeezed behind it as the part itself would be.
-/
import Toolsmith.Proofs.Naming

namespace Toolsmith.Naming

open Text

/-- A text that is made of characters of names, where no two underscores are
adjacent. -/
structure IsClean (s : List Char) : Prop where
  plain : ∀ c ∈ s, isNameChar c = true
  single : ¬ ['_', '_'] <:+: s

-- =========================================================== squeezing

/-- An underscore ends the text, or stands in front of it if it is empty. -/
def trails : Bool → List Char → Bool
  | after, [] => after
  | _, c :: rest => trails (c == '_') rest

/-- The second of two underscores is left out. -/
@[simp]
theorem squeezeFrom_true_cons (s : List Char) :
    squeezeFrom true ('_' :: s) = squeezeFrom true s :=
  rfl

/-- The first of them stays. -/
@[simp]
theorem squeezeFrom_false_cons (s : List Char) :
    squeezeFrom false ('_' :: s) = '_' :: squeezeFrom true s :=
  rfl

/-- So does any other character. -/
theorem squeezeFrom_cons_of_ne {c : Char} (h : c ≠ '_') (after : Bool)
    (s : List Char) :
    squeezeFrom after (c :: s) = c :: squeezeFrom false s := by
  rw [squeezeFrom, beq_false_of_ne h]
  rfl

/-- A text behind another one is squeezed behind its end. -/
theorem squeezeFrom_append (s t : List Char) (after : Bool) :
    squeezeFrom after (s ++ t)
      = squeezeFrom after s ++ squeezeFrom (trails after s) t := by
  induction s generalizing after with
  | nil => rfl
  | cons c rest ih =>
      by_cases hc : c = '_'
      · subst hc
        cases after with
        | false => exact congrArg ('_' :: ·) (ih true)
        | true => exact ih true
      · rw [List.cons_append, squeezeFrom_cons_of_ne hc,
          squeezeFrom_cons_of_ne hc, ih false, trails, beq_false_of_ne hc]
        rfl

/-- Squeezing leaves the end of a text as it was. -/
theorem trails_squeezeFrom (s : List Char) (after : Bool) :
    trails after (squeezeFrom after s) = trails after s := by
  induction s generalizing after with
  | nil => rfl
  | cons c rest ih =>
      by_cases hc : c = '_'
      · subst hc
        cases after with
        | false => exact ih true
        | true => exact ih true
      · rw [squeezeFrom_cons_of_ne hc, trails, trails, beq_false_of_ne hc]
        exact ih false

/-- A text that is squeezed twice begins behind an underscore if one of the
two times it does. -/
theorem squeezeFrom_squeezeFrom (s : List Char) (after before : Bool) :
    squeezeFrom after (squeezeFrom before s)
      = squeezeFrom (after || before) s := by
  induction s generalizing after before with
  | nil => rfl
  | cons c rest ih =>
      by_cases hc : c = '_'
      · subst hc
        cases before with
        | true =>
            rw [squeezeFrom_true_cons, ih, Bool.or_true, squeezeFrom_true_cons]
        | false =>
            rw [squeezeFrom_false_cons, Bool.or_false]
            cases after with
            | true => rw [squeezeFrom_true_cons, squeezeFrom_true_cons, ih]; rfl
            | false =>
                rw [squeezeFrom_false_cons, squeezeFrom_false_cons, ih]
                rfl
      · rw [squeezeFrom_cons_of_ne hc, squeezeFrom_cons_of_ne hc, ih,
          squeezeFrom_cons_of_ne hc]
        rfl

/-- Squeezing two texts side by side is squeezing what each is squeezed
to. -/
theorem squeeze_append (s t : List Char) :
    squeeze (s ++ t) = squeeze (squeeze s ++ squeeze t) := by
  unfold squeeze
  rw [squeezeFrom_append, squeezeFrom_append, trails_squeezeFrom,
    squeezeFrom_squeezeFrom, squeezeFrom_squeezeFrom, Bool.or_false,
    Bool.or_false]

/-- Where no two underscores are adjacent, none is left out. -/
theorem squeeze_eq_self {s : List Char} (h : ¬ ['_', '_'] <:+: s) :
    squeeze s = s := by
  unfold squeeze
  induction s with
  | nil => rfl
  | cons c rest ih =>
      have hrest := ih fun hin => h (List.infix_cons hin)
      by_cases hc : c = '_'
      · subst hc
        rw [squeezeFrom_false_cons]
        cases rest with
        | nil => rfl
        | cons d more =>
            have hd : d ≠ '_' := by
              rintro rfl
              exact h (List.prefix_append ['_', '_'] more).isInfix
            rw [squeezeFrom_cons_of_ne hd] at hrest ⊢
            rw [hrest]
      · rw [squeezeFrom_cons_of_ne hc, hrest]

-- ============================================================ sanitize

theorem map_nameChar_eq_self {s : List Char}
    (h : ∀ c ∈ s, isNameChar c = true) : s.map nameChar = s :=
  (List.map_congr_left fun c hc => nameChar_eq_self (h c hc)).trans
    (List.map_id s)

theorem isClean_sanitize (s : List Char) : IsClean (sanitize s) :=
  ⟨List.all_eq_true.mp (all_sanitize s), not_infix_sanitize s⟩

/-- A clean text is sanitized already. -/
theorem IsClean.sanitize_eq_self {s : List Char} (h : IsClean s) :
    sanitize s = s := by
  unfold sanitize
  rw [map_nameChar_eq_self h.plain, squeeze_eq_self h.single]

theorem sanitize_eq_self_iff {s : List Char} : sanitize s = s ↔ IsClean s :=
  ⟨fun h => by rw [← h]; exact isClean_sanitize s, IsClean.sanitize_eq_self⟩

theorem sanitize_eq_nil_iff {s : List Char} : sanitize s = [] ↔ s = [] :=
  ⟨fun h => by_contra fun hne => sanitize_ne_nil hne h, fun h => by rw [h]; rfl⟩

/-- Texts may be sanitized part by part. -/
theorem sanitize_append (s t : List Char) :
    sanitize (s ++ t) = sanitize (sanitize s ++ sanitize t) := by
  have hplain : (sanitize s ++ sanitize t).map nameChar
      = sanitize s ++ sanitize t := by
    rw [List.map_append, map_nameChar_eq_self (isClean_sanitize s).plain,
      map_nameChar_eq_self (isClean_sanitize t).plain]
  calc sanitize (s ++ t)
      = squeeze (s.map nameChar ++ t.map nameChar) := by
        rw [sanitize, List.map_append]
    _ = squeeze (sanitize s ++ sanitize t) := squeeze_append _ _
    _ = sanitize (sanitize s ++ sanitize t) := by
        conv_rhs => rw [sanitize, hplain]

-- ========================================================= identifiers

/-- What may stand in front of a name is no digit. -/
theorem isAsciiDigit_of_isLead {c : Char}
    (h : (isAsciiLetter c || c == '_') = true) : isAsciiDigit c = false := by
  refine Bool.eq_false_iff.mpr fun hdigit => ?_
  simp only [isAsciiLetter, isAsciiDigit, Bool.or_eq_true, Bool.and_eq_true,
    decide_eq_true_eq, beq_iff_eq] at h hdigit
  rcases h with (⟨hsmall, -⟩ | ⟨hcapital, -⟩) | rfl
  · exact absurd (Char.le_trans hsmall hdigit.2) (by decide)
  · exact absurd (Char.le_trans hcapital hdigit.2) (by decide)
  · exact absurd hdigit.2 (by decide)

/-- A made name is clean. -/
theorem isClean_toIdentifier {s : List Char} (h : s ≠ []) :
    IsClean (toIdentifier s) :=
  ⟨List.all_eq_true.mp
      (all_isNameChar_of_isIdentifier (isIdentifier_toIdentifier h)),
    not_infix_toIdentifier s⟩

/-- A clean identifier is made already. -/
theorem IsClean.toIdentifier_eq_self {s : List Char} (h : IsClean s)
    (hs : isIdentifier s = true) : toIdentifier s = s := by
  unfold toIdentifier
  rw [h.sanitize_eq_self]
  cases s with
  | nil => rfl
  | cons c rest =>
      have hc := isAsciiDigit_of_isLead (Bool.and_eq_true_iff.mp hs).1
      exact if_neg (by simp [hc])

/-- Sanitizing is a normal form. What it makes is clean, and empty only from the
empty text; it leaves exactly the clean texts as they are; and of two texts side
by side it makes what it makes of their sanitized texts. A name that is made of
a text which is not empty is a clean identifier, and stays as it is too. -/
theorem sanitize_normalForm :
    (∀ s, IsClean (sanitize s) ∧ (sanitize s = [] ↔ s = [])
        ∧ (sanitize s = s ↔ IsClean s)
        ∧ sanitize (sanitize s) = sanitize s)
      ∧ (∀ s t, sanitize (s ++ t) = sanitize (sanitize s ++ sanitize t))
      ∧ ∀ s, s ≠ [] →
        isIdentifier (toIdentifier s) = true ∧ IsClean (toIdentifier s)
          ∧ toIdentifier (toIdentifier s) = toIdentifier s := by
  refine ⟨fun s => ⟨isClean_sanitize s, sanitize_eq_nil_iff,
    sanitize_eq_self_iff, (isClean_sanitize s).sanitize_eq_self⟩,
    sanitize_append, fun s hs => ?_⟩
  have hident := isIdentifier_toIdentifier hs
  have hclean := isClean_toIdentifier hs
  exact ⟨hident, hclean, hclean.toIdentifier_eq_self hident⟩

/-- The run of underscores that comes of a dash, a slash and a letter with an
accent goes on from one part to the next, and is one underscore. A name with a
digit in front is kept from beginning with it, once. -/
theorem sanitize_normalForm_adjacent :
    sanitize ("get-".toList ++ "/é_x".toList) = "get_x".toList
      ∧ sanitize ("get_".toList ++ "_x".toList) = "get_x".toList
      ∧ toIdentifier "2fa-verify".toList = "_2fa_verify".toList
      ∧ toIdentifier "_2fa_verify".toList = "_2fa_verify".toList := by
  obtain ⟨-, hparts, hnames⟩ := sanitize_normalForm
  have hwhole : sanitize ("get_".toList ++ "_x".toList) = "get_x".toList := by
    decide
  have hname : toIdentifier "2fa-verify".toList = "_2fa_verify".toList := by
    decide
  refine ⟨(hparts _ _).trans hwhole, hwhole, hname, ?_⟩
  rw [← hname]
  exact (hnames "2fa-verify".toList (by decide)).2.2

end Toolsmith.Naming
