/-
What the lower case of a text says about it.

Outside ASCII only one sign turns into a single ASCII letter, the one for kelvins
into a `k`; so a text whose lower case is a plain word without a `k` is made of
ASCII letters, and is so in upper case.

What a capital sigma turns into hangs on the nearest characters around it that
are not skipped. A space is not skipped and has no case, so nothing beyond it
counts, and texts with a space between them are put into lower case one by one.
-/
import Toolsmith.Text.Case

namespace Toolsmith.Text

-- ========================================================= plain words

/-- An ASCII letter in lower case other than `k`. -/
def isPlainLower (c : Char) : Bool := 'a' ≤ c && c ≤ 'z' && c != 'k'

/-- The lower-case form of one character that is outside ASCII holds
characters which are not among those letters. -/
theorem exists_mem_lowerChar {c : Char} (h : 0x80 ≤ c.toNat) :
    ∃ d ∈ lowerChar c, isPlainLower d = false := by
  have hother : ∀ n : Nat, 0x80 ≤ n ∨ n = 0x6b →
      isPlainLower (Char.ofNat n) = false := by
    intro n hn
    rcases hn with hn | rfl
    · by_cases hvalid : n.isValidChar
      · have hz : ¬ Char.ofNat n ≤ 'z' := by
          have htoNat : (Char.ofNat n).toNat = n := by
            rw [Char.ofNat, dif_pos hvalid]
            rfl
          intro hle
          have hle : (Char.ofNat n).toNat ≤ 'z'.toNat := hle
          rw [htoNat] at hle
          exact absurd (Nat.le_trans hn hle) (by decide)
        simp [isPlainLower, hz]
      · rw [Char.ofNat, dif_neg hvalid]
        decide
    · decide
  unfold lowerChar
  rw [if_neg (by omega)]
  unfold caseForm
  have hforms : ∀ e ∈ lowerExpansions,
      (e.2.map Char.ofNat).all isPlainLower = false := by
    decide
  have hruns : ∀ r ∈ lowerRuns, r.2.1 < 0x80
      ∨ (0x80 : Int) ≤ r.1 + r.2.2.2
      ∨ r.1 = 0x212a ∧ r.2.1 = 0x212a ∧ r.2.2.2 = -8383 := by
    decide +kernel
  cases hfind : lowerExpansions.find? (·.1 == c.toNat) with
  | some e =>
      have hform := hforms e (List.mem_of_find?_eq_some hfind)
      obtain ⟨d, hd, hplain⟩ := List.all_eq_false.mp hform
      exact ⟨d, hd, Bool.eq_false_iff.mpr hplain⟩
  | none =>
      unfold runImage?
      dsimp only
      split
      next n himage =>
          obtain ⟨⟨first, last, step, shift⟩, hrun, rfl⟩ :=
            Option.map_eq_some_iff.mp himage
          have hmem := List.mem_of_find?_eq_some hrun
          have hfit := List.find?_some hrun
          simp only [Bool.and_eq_true, decide_eq_true_eq] at hfit
          have hcase := hruns _ hmem
          dsimp only at hcase
          refine ⟨_, List.mem_singleton_self _, hother _ ?_⟩
          dsimp only
          omega
      · refine ⟨c, List.mem_singleton_self c, ?_⟩
        rw [← Char.ofNat_toNat c]
        exact hother c.toNat (Or.inl h)

/-- A character in ASCII whose lower-case form is a letter is a letter, and
so is its upper-case form. -/
theorem upperChar_of_lowerChar {c : Char} (h : c.toNat < 0x80)
    (hlower : ∀ d ∈ lowerChar c, isPlainLower d = true) :
    ∃ d, upperChar c = [d] ∧ isAsciiLetter d = true := by
  have hall : ∀ n < 0x80,
      (lowerChar (Char.ofNat n)).all isPlainLower = true →
        upperChar (Char.ofNat n) = [(Char.ofNat n).toUpper]
          ∧ isAsciiLetter (Char.ofNat n).toUpper = true := by
    decide +kernel
  have hc := hall c.toNat h
  rw [Char.ofNat_toNat] at hc
  obtain ⟨hform, hletter⟩ := hc (List.all_eq_true.mpr hlower)
  exact ⟨_, hform, hletter⟩

/-- A text that is such a word in lower case is made of ASCII letters in
upper case, as many as it has characters. -/
theorem upper_of_lower {s : List Char}
    (h : (lower s).all isPlainLower = true) :
    (upper s).all isAsciiLetter = true
      ∧ (upper s).length = s.length := by
  have hafter : ∀ (before s : List Char),
      (lowerAfter before s).all isPlainLower = true →
        (upper s).all isAsciiLetter = true
          ∧ (upper s).length = s.length := by
    intro before s h
    induction s generalizing before with
    | nil => exact ⟨rfl, rfl⟩
    | cons c rest ih =>
        rw [lowerAfter, List.all_append, Bool.and_eq_true] at h
        obtain ⟨hc, hrest⟩ := h
        have hsigma : c ≠ 'Σ' := by
          rintro rfl
          rw [if_pos (beq_self_eq_true _)] at hc
          split at hc <;> exact absurd hc (by decide)
        rw [if_neg (by rw [beq_iff_eq]; exact hsigma)] at hc
        have hall := List.all_eq_true.mp hc
        have hascii : c.toNat < 0x80 := by
          refine Nat.lt_of_not_le fun hge => ?_
          obtain ⟨d, hd, hplain⟩ := exists_mem_lowerChar hge
          rw [hall d hd] at hplain
          cases hplain
        obtain ⟨d, hupper, hletter⟩ := upperChar_of_lowerChar hascii hall
        obtain ⟨hletters, hlength⟩ := ih _ hrest
        unfold upper at hletters hlength ⊢
        rw [List.flatMap_cons, hupper]
        refine ⟨?_, ?_⟩
        · rw [List.all_append, hletters, Bool.and_true]
          show (isAsciiLetter d && true) = true
          rw [hletter]
          rfl
        · rw [List.length_append, hlength]
          show 1 + rest.length = rest.length + 1
          omega
  exact hafter [] s h

-- ============================================================== spaces

/-- Beyond a character that is not skipped and has no case no letter is met. -/
theorem meetsCased_append_cons {c : Char} (hskip : isCaseIgnorable c = false)
    (hcased : isCased c = false) (s t : List Char) :
    meetsCased (s ++ c :: t) = meetsCased s := by
  induction s with
  | nil =>
      unfold meetsCased
      rw [List.nil_append, List.dropWhile_cons_of_neg (by simp [hskip])]
      exact hcased
  | cons d rest ih =>
      unfold meetsCased at ih ⊢
      rw [List.cons_append]
      cases hd : isCaseIgnorable d with
      | true =>
          rw [List.dropWhile_cons_of_pos hd, List.dropWhile_cons_of_pos hd, ih]
      | false =>
          rw [List.dropWhile_cons_of_neg (by simp [hd]),
            List.dropWhile_cons_of_neg (by simp [hd])]
          rfl

/-- A space is such a character. -/
theorem meetsCased_append_space (s t : List Char) :
    meetsCased (s ++ ' ' :: t) = meetsCased s :=
  meetsCased_append_cons (by decide +kernel) (by decide +kernel) s t

/-- A text behind a space is put into lower case as one behind nothing. -/
theorem lowerAfter_append_space (s before beyond : List Char) :
    lowerAfter (before ++ ' ' :: beyond) s = lowerAfter before s := by
  induction s generalizing before with
  | nil => rfl
  | cons c rest ih =>
      rw [lowerAfter, lowerAfter, meetsCased_append_space, ← List.cons_append,
        ih]

/-- A text in front of a space is put into lower case as one in front of
nothing. -/
theorem lowerAfter_space (s t before : List Char) :
    lowerAfter before (s ++ ' ' :: t)
      = lowerAfter before s ++ ' ' :: lower t := by
  induction s generalizing before with
  | nil => exact congrArg (' ' :: ·) (lowerAfter_append_space t [] before)
  | cons c rest ih =>
      rw [List.cons_append, lowerAfter, lowerAfter, meetsCased_append_space, ih,
        List.append_assoc]

/-- Texts with a space between them are put into lower case one by one. -/
theorem lower_append_space (s t : List Char) :
    lower (s ++ ' ' :: t) = lower s ++ ' ' :: lower t :=
  lowerAfter_space s t []

end Toolsmith.Text
