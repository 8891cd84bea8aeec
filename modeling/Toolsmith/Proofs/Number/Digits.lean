/-
Reading integers that are written with the ten usual digits alone: the only
ones that cannot be read are those with too many digits.
-/
import Toolsmith.Number.Read

namespace Toolsmith.Number

open Text

-- ========================================================== single digits

/-- The code points of the usual digits. -/
theorem range_of_isAsciiDigit {c : Char} (h : isAsciiDigit c = true) :
    48 ≤ c.toNat ∧ c.toNat ≤ 57 := by
  simp only [isAsciiDigit, Bool.and_eq_true, decide_eq_true_eq] at h
  exact ⟨h.1, h.2⟩

/-- A usual digit is read as its place among the ten. -/
theorem digitBelow?_ascii {c : Char} (h : isAsciiDigit c = true) :
    digitBelow? 10 c = some (c.toNat - 48) := by
  have hrange := range_of_isAsciiDigit h
  have hvalue : digitValue? c = some (c.toNat - 48) := by
    have hfirst : (decide (0x30 ≤ c.toNat)
        && decide (c.toNat < 0x30 + 10)) = true := by
      simp
      omega
    simp only [digitValue?, zeroDigits, List.find?_cons]
    rw [hfirst]
    rfl
  have hsmall : c.toNat - 48 < 10 := by omega
  simp [digitBelow?, hvalue, Option.filter, hsmall]

/-- A usual digit is no padding. -/
theorem isPadding_ascii {c : Char} (h : isAsciiDigit c = true) :
    isPadding c = false := by
  have hrange := range_of_isAsciiDigit h
  simp [isPadding, isBlank]
  omega

/-- A usual digit is neither a sign nor an underscore. -/
theorem ascii_ne {c : Char} (h : isAsciiDigit c = true) :
    c ≠ '-' ∧ c ≠ '+' ∧ c ≠ '_' := by
  refine ⟨?_, ?_, ?_⟩ <;> (rintro rfl; exact absurd h (by decide))

-- ========================================================= digit strings

/-- The number of a usual digit. -/
def asciiValue (c : Char) : Nat := c.toNat - 48

/-- Digits are taken up to the end of a text of digits. -/
theorem takeDigits_ascii {ds : List Char}
    (h : ∀ c ∈ ds, isAsciiDigit c = true) :
    takeDigits 10 ds = (ds.map asciiValue, []) := by
  induction ds with
  | nil => rfl
  | cons c rest ih =>
      have hc : isAsciiDigit c = true := h c List.mem_cons_self
      have hrest := ih fun d hd => h d (List.mem_cons_of_mem c hd)
      rw [takeDigits]
      · rw [digitBelow?_ascii hc]
        simp only [hrest]
        rfl
      · rintro _ _ rfl
        exact absurd rfl (ascii_ne hc).2.2

/-- Nothing is stripped from a text that neither begins nor ends with what
is stripped. -/
theorem stripOf_eq_self {kind : Char → Bool} {s : List Char}
    (hfirst : ∀ c, s.head? = some c → kind c = false)
    (hlast : ∀ c, s.getLast? = some c → kind c = false) :
    stripOf kind s = s := by
  have hkeep : ∀ {t : List Char},
      (∀ c, t.head? = some c → kind c = false) → t.dropWhile kind = t := by
    intro t ht
    cases t with
    | nil => rfl
    | cons c rest => exact List.dropWhile_cons_of_neg (by simp [ht c rfl])
  rw [stripOf, hkeep hfirst, hkeep, List.reverse_reverse]
  intro c hc
  rw [List.head?_reverse] at hc
  exact hlast c hc

/-- An integer of usual digits, with a minus or none, is read unless it has
too many of them. -/
theorem int?_ascii {ds : List Char} (hne : ds ≠ [])
    (h : ∀ c ∈ ds, isAsciiDigit c = true) (negative : Bool) :
    int? 10 ((if negative then ['-'] else []) ++ ds) =
      if digitLimit < ds.length then .error .tooLong
      else
        let n : Int := ofDigits 10 (ds.map asciiValue)
        .ok (if negative then -n else n) := by
  obtain ⟨d, rest, rfl⟩ := List.exists_cons_of_ne_nil hne
  have hd : isAsciiDigit d = true := h d List.mem_cons_self
  have hstrip :
      stripOf isPadding ((if negative then ['-'] else []) ++ d :: rest)
        = (if negative then ['-'] else []) ++ d :: rest := by
    refine stripOf_eq_self ?_ ?_
    · intro c hc
      cases negative with
      | true => cases hc; decide
      | false => cases hc; exact isPadding_ascii hd
    · intro c hc
      have hmem : c ∈ d :: rest := by
        rw [List.getLast?_append, List.getLast?_cons] at hc
        exact List.mem_of_getLast? (hc.symm ▸ List.getLast?_cons)
      exact isPadding_ascii (h c hmem)
  have hsigned : signed ((if negative then ['-'] else []) ++ d :: rest)
      = (negative, d :: rest) := by
    cases negative with
    | true => rfl
    | false =>
        simp only [Bool.false_eq_true, if_false, List.nil_append]
        rw [signed]
        · rintro _ ⟨⟩
          exact absurd rfl (ascii_ne hd).1
        · rintro _ ⟨⟩
          exact absurd rfl (ascii_ne hd).2.1
  have hrun : digitRun 10 (d :: rest) = ((d :: rest).map asciiValue, []) := by
    have hhead : ((d :: rest).head? == some '_') = false := by
      simpa using (ascii_ne hd).2.2
    rw [digitRun, hhead, if_neg Bool.false_ne_true, takeDigits_ascii h]
  simp only [int?, hstrip, hsigned, hrun]
  simp

end Toolsmith.Number
