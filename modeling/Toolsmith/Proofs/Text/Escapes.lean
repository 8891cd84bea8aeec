/-
What an escape is made of, read back: the hexadecimal digits of a number give
the number again, and the code point that a character holds gives the
character. Two halves of a pair that stand side by side are the one thing that
escapes cannot tell from another: written unit by unit they look like the
character of the pair.
-/
import Mathlib.Algebra.Group.Nat.Defs
import Toolsmith.Number.Read
import Toolsmith.Proofs.Value.Surrogates

namespace Toolsmith.Text

-- ============================================================== digits

/-- A hexadecimal digit has the value that it was made from. -/
theorem hexValue?_hexDigit {n : Nat} (h : n < 16) :
    hexValue? (hexDigit n) = some n := by
  have hall : ∀ m < 16, hexValue? (hexDigit m) = some m := by decide
  exact hall n h

@[simp]
theorem length_hexText (width n : Nat) : (hexText width n).length = width := by
  induction width generalizing n with
  | zero => rfl
  | succ width ih => simp [hexText, ih]

/-- Every digit has a value. -/
theorem isSome_hexValue?_of_mem {width n : Nat} {c : Char}
    (h : c ∈ hexText width n) : (hexValue? c).isSome = true := by
  induction width generalizing n with
  | zero => cases h
  | succ width ih =>
      rw [hexText, List.mem_append, List.mem_singleton] at h
      rcases h with h | rfl
      · exact ih h
      · rw [hexValue?_hexDigit (Nat.mod_lt _ (by decide))]
        rfl

/-- The digits of a number that has no more of them give the number. -/
theorem ofDigits_hexText {width n : Nat} (h : n < 16 ^ width) :
    Number.ofDigits 16 ((hexText width n).filterMap hexValue?) = n := by
  induction width generalizing n with
  | zero =>
      have hzero : n = 0 := by simpa using h
      rw [hzero]
      rfl
  | succ width ih =>
      have hfront : n / 16 < 16 ^ width := by
        rw [Nat.pow_succ] at h
        omega
      have hlast := hexValue?_hexDigit (Nat.mod_lt n (by decide : 0 < 16))
      rw [hexText, List.filterMap_append, List.filterMap_cons_some hlast,
        List.filterMap_nil]
      unfold Number.ofDigits at ih ⊢
      rw [List.foldl_append, ih hfront]
      show n / 16 * 16 + n % 16 = n
      omega

-- ========================================================= code points

/-- The numbers of characters stand on both sides of the surrogates. -/
theorem toNat_cases (c : Char) :
    c.toNat < 0xd800 ∨ 0xdfff < c.toNat ∧ c.toNat < 0x110000 :=
  c.valid

/-- A character is no surrogate. -/
theorem isSurrogate_toNat (c : Char) : isSurrogate c.toNat = false := by
  have hcases := toNat_cases c
  simp only [isSurrogate, Bool.and_eq_false_iff, decide_eq_false_iff_not]
  omega

/-- A character holds its code point. -/
theorem ofCodePoint_codePoint (c : Char) : ofCodePoint (codePoint c) = c := by
  unfold codePoint
  by_cases hlone : isSurrogate (c.toNat - 0x100000) = true
  · have hfar : 0x100000 + (c.toNat - 0x100000) = c.toNat := by
      simp only [isSurrogate, Bool.and_eq_true, decide_eq_true_eq] at hlone
      omega
    rw [if_pos hlone, ofCodePoint, if_pos hlone, hfar, Char.ofNat_toNat]
  · rw [if_neg hlone, ofCodePoint,
      if_neg (by simp [isSurrogate_toNat]), Char.ofNat_toNat]

/-- There are no code points further on. -/
theorem codePoint_le (c : Char) : codePoint c ≤ 0x10ffff := by
  have hcases := toNat_cases c
  unfold codePoint
  split <;> omega

/-- Of the characters, only those that hold lone surrogates have one for
their code point. -/
theorem isSurrogate_codePoint (c : Char) :
    isSurrogate (codePoint c) = isLone c := by
  unfold codePoint isLone
  by_cases hlone : isSurrogate (c.toNat - 0x100000) = true
  · rw [if_pos hlone]
  · rw [if_neg hlone, isSurrogate_toNat]
    simpa using hlone

-- =============================================================== pairs

/-- The characters hold the two halves of a pair, in order. -/
def isPair (c d : Char) : Bool :=
  isHighSurrogate (codePoint c) && isLowSurrogate (codePoint d)

/-- Nowhere in the text do the halves of a pair stand side by side. -/
def Unpaired (s : List Char) : Prop :=
  s.IsChain fun c d => isPair c d = false

instance (s : List Char) : Decidable (Unpaired s) :=
  inferInstanceAs (Decidable (s.IsChain fun c d => isPair c d = false))

/-- What holds no surrogate begins no pair. -/
theorem isPair_of_not_isLone {c : Char} (h : isLone c = false) (d : Char) :
    isPair c d = false := by
  have hsurrogate := (isSurrogate_codePoint c).trans h
  unfold isPair
  rw [Bool.and_eq_false_iff]
  simp only [isSurrogate, isHighSurrogate, Bool.and_eq_false_iff,
    decide_eq_false_iff_not] at hsurrogate ⊢
  omega

/-- Nothing in front of a text that begins no pair makes one. -/
theorem Unpaired.cons {c : Char} {s : List Char} (h : Unpaired s)
    (hc : isLone c = false) : Unpaired (c :: s) := by
  cases s with
  | nil => exact .singleton c
  | cons d rest =>
      exact List.isChain_cons_cons.mpr ⟨isPair_of_not_isLone hc d, h⟩

theorem Unpaired.append {front s : List Char} (h : Unpaired s)
    (hfront : LoneFree front) : Unpaired (front ++ s) := by
  induction front with
  | nil => exact h
  | cons c front ih =>
      obtain ⟨hc, hfront⟩ := loneFree_cons.mp hfront
      exact (ih hfront).cons hc

/-- A text without lone surrogates has no halves. -/
theorem LoneFree.unpaired {s : List Char} (h : LoneFree s) : Unpaired s :=
  s.append_nil ▸ Unpaired.append .nil h

/-- The text with one character for every two halves of a pair. -/
def joinPairs : List Char → List Char
  | c :: d :: rest =>
    if isPair c d then
      ofCodePoint (pairValue (codePoint c) (codePoint d)) :: joinPairs rest
    else c :: joinPairs (d :: rest)
  | s => s

/-- Without halves side by side there is nothing to join. -/
theorem joinPairs_of_unpaired {s : List Char} (h : Unpaired s) :
    joinPairs s = s := by
  induction s using joinPairs.induct with
  | case1 c d rest hpair _ =>
      have hnone := (List.isChain_cons_cons.mp h).1
      rw [hnone] at hpair
      cases hpair
  | case2 c d rest hpair ih =>
      rw [joinPairs, if_neg hpair, ih (List.isChain_cons_cons.mp h).2]
  | case3 s hshort =>
      unfold joinPairs
      split
      · exact absurd rfl (hshort _ _ _)
      · rfl

/-- The first half of a pair is joined with the second one. -/
example : joinPairs [ofCodePoint 0xd83d, ofCodePoint 0xde00] = ['😀'] := by
  decide

end Toolsmith.Text
