/-
Which integers no double is near to. Rounding keeps fifty-three bits, so an
integer below `2 ^ 1024` is beyond the doubles only if it rounds up to that
power, which the last half unit of the widest mantissa decides.
-/
import Mathlib.Tactic.Ring
import Toolsmith.Number.Binary64

namespace Toolsmith.Binary64

-- ======================================================= rounding steps

/-- The power of two below a whole number is the one that its length
gives. -/
theorem floorLog2_one {num : Nat} (h : num ≠ 0) :
    floorLog2 num 1 = Nat.log2 num := by
  have hle : 2 ^ Nat.log2 num ≤ num := Nat.log2_self_le h
  have hone : Nat.log2 1 = 0 := by decide
  have hguess : (Nat.log2 num : Int) - Nat.log2 1 = Nat.log2 num := by
    rw [hone]
    exact Int.sub_zero _
  have hscaled : scaled num 1 (Nat.log2 num) = (num, 2 ^ Nat.log2 num) := by
    simp [scaled]
  simp only [floorLog2, hguess, hscaled]
  exact if_pos hle

/-- A quotient below an even bound rounds up to it exactly from half a unit
below it on. -/
theorem roundQuotient_eq_iff {num den top : Nat} (hden : 0 < den)
    (heven : top % 2 = 0) (hlt : num < top * den) :
    roundQuotient num den = top ↔ (2 * top - 1) * den ≤ 2 * num := by
  have hsplit : den * (num / den) + num % den = num := Nat.div_add_mod ..
  have hrest : num % den < den := Nat.mod_lt _ hden
  have hq : num / den < top :=
    Nat.div_lt_of_lt_mul (by rwa [Nat.mul_comm] at hlt)
  simp only [roundQuotient]
  generalize num / den = q at *
  generalize num % den = r at *
  rcases Nat.lt_or_ge (q + 1) top with hsmall | hlast
  · -- The quotient is more than a unit below: neither side can hold.
    have hne : (if den < 2 * r || (2 * r == den && q % 2 == 1) then q + 1
        else q) ≠ top := by
      split <;> omega
    have hgap : (2 * (q + 2)) * den ≤ (2 * top) * den :=
      Nat.mul_le_mul_right den (by omega)
    have hless : 2 * num < (2 * top - 1) * den := by
      have hwide : (2 * top - 1) * den = 2 * top * den - den := by
        rw [Nat.sub_mul, Nat.one_mul]
      have hexpand : (2 * (q + 2)) * den = 2 * (den * q) + 4 * den := by ring
      omega
    exact ⟨fun h => absurd h hne, fun h => absurd h (Nat.not_le.mpr hless)⟩
  · -- The quotient is the last one below, which is odd.
    obtain rfl : top = q + 1 := by omega
    have hwide : (2 * (q + 1) - 1) * den = 2 * (den * q) + den := by
      rw [show 2 * (q + 1) - 1 = 2 * q + 1 by omega]
      ring
    rw [hwide]
    have hodd : q % 2 = 1 := by omega
    by_cases hup : den ≤ 2 * r
    · have htest : (den < 2 * r || (2 * r == den && q % 2 == 1)) = true := by
        rcases Nat.lt_or_eq_of_le hup with h | h
        · simp [h]
        · simp [h, hodd]
      rw [if_pos htest]
      exact ⟨fun _ => by omega, fun _ => rfl⟩
    · have htest : (den < 2 * r || (2 * r == den && q % 2 == 1)) = false := by
        have hlt : ¬ den < 2 * r := by omega
        have hne : ¬ 2 * r = den := by omega
        simp [hlt, hne]
      rw [htest]
      exact ⟨fun h => by simp at h, fun h => by omega⟩

/-- The exponent that rounding starts from for a whole number. -/
def exponentOf (num : Nat) : Int := max (Nat.log2 num - 52) leastExponent

/-- The mantissa that rounding comes to for a whole number, before a
carry. -/
def mantissaOf (num : Nat) : Nat :=
  roundQuotient (scaled num 1 (exponentOf num)).1
    (scaled num 1 (exponentOf num)).2

/-- A whole number is beyond the doubles exactly if the exponent is, after
the carry if there is one. -/
theorem ofRatio_one_eq_infinity_iff {negative : Bool} {num : Nat}
    (h : num ≠ 0) :
    (∃ s, ofRatio negative num 1 = infinity s)
      ↔ greatestExponent
          < if mantissaOf num = 2 ^ 53 then exponentOf num + 1
            else exponentOf num := by
  have hzero : (num == 0) = false := by simpa using h
  have hrun : ofRatio negative num 1 =
      let made : Nat × Int :=
        if mantissaOf num == Nat.pow 2 53
        then (Nat.pow 2 52, exponentOf num + 1)
        else (mantissaOf num, exponentOf num)
      if greatestExponent < made.2 then infinity negative
      else finite negative made.1 made.2 := by
    simp only [ofRatio, hzero, floorLog2_one h]
    rfl
  have hmade : (if mantissaOf num == Nat.pow 2 53
      then (Nat.pow 2 52, exponentOf num + 1)
      else (mantissaOf num, exponentOf num)).2
        = if mantissaOf num = 2 ^ 53 then exponentOf num + 1
          else exponentOf num := by
    by_cases hcarry : mantissaOf num = 2 ^ 53
    · rw [if_pos hcarry, if_pos (by rw [hcarry]; rfl)]
    · have htest : ¬ (mantissaOf num == Nat.pow 2 53) = true :=
        fun hc => hcarry (eq_of_beq hc)
      rw [if_neg hcarry, if_neg htest]
  rw [hrun, ← hmade]
  generalize (if mantissaOf num == Nat.pow 2 53
    then (Nat.pow 2 52, exponentOf num + 1)
    else (mantissaOf num, exponentOf num)) = made
  by_cases hbeyond : greatestExponent < made.2
  · rw [if_pos hbeyond]
    exact ⟨fun _ => hbeyond, fun _ => ⟨negative, rfl⟩⟩
  · rw [if_neg hbeyond]
    exact ⟨fun ⟨s, hs⟩ => (by cases hs), fun hlt => absurd hlt hbeyond⟩

/-- The integers beyond the doubles: those from the midpoint on between the
largest double and `2 ^ 1024`. -/
theorem ofInt_eq_infinity_iff (n : Int) :
    (∃ s, ofInt n = infinity s) ↔ 2 ^ 1024 - 2 ^ 970 ≤ n.natAbs := by
  -- Everything is counted in half units of the widest mantissa.
  have htop : (2 ^ 1024 : Nat) = 2 ^ 54 * 2 ^ 970 := by rw [← Nat.pow_add]
  have hhalf : (2 ^ 1023 : Nat) = 2 ^ 53 * 2 ^ 970 := by rw [← Nat.pow_add]
  have hunit : (2 ^ 971 : Nat) = 2 ^ 1 * 2 ^ 970 := by rw [← Nat.pow_add]
  have hpos : 0 < 2 ^ 970 := Nat.two_pow_pos _
  by_cases hzero : n.natAbs = 0
  · have hrun : ofInt n = zero (n < 0) := by simp [ofInt, ofRatio, hzero]
    rw [hrun, hzero, htop]
    generalize 2 ^ 970 = u at *
    exact ⟨fun ⟨s, hs⟩ => (by cases hs), fun h => by omega⟩
  rw [ofInt, ofRatio_one_eq_infinity_iff hzero, greatestExponent]
  generalize n.natAbs = num at *
  have hlow : 2 ^ Nat.log2 num ≤ num := Nat.log2_self_le hzero
  have hhigh : num < 2 ^ (Nat.log2 num + 1) := Nat.lt_log2_self
  rcases Nat.lt_trichotomy (Nat.log2 num) 1023 with hless | heq | hmore
  · have hexp : exponentOf num < 971 := by
      simp only [exponentOf, leastExponent]
      omega
    have hsmall : num < 2 ^ 1023 :=
      hhigh.trans_le (Nat.pow_le_pow_right (by decide) hless)
    rw [hhalf] at hsmall
    rw [htop]
    generalize 2 ^ 970 = u at *
    constructor
    · intro h
      split at h <;> omega
    · intro h
      omega
  · have hexp : exponentOf num = 971 := by
      simp only [exponentOf, leastExponent, heq]
      decide
    have hmant : mantissaOf num = roundQuotient num (2 ^ 971) := by
      simp only [mantissaOf, hexp]
      simp [scaled]
    have hround : roundQuotient num (2 ^ 971) = 2 ^ 53
        ↔ (2 * 2 ^ 53 - 1) * 2 ^ 971 ≤ 2 * num :=
      roundQuotient_eq_iff (Nat.two_pow_pos 971) (by decide) (by
        rw [heq] at hhigh
        rw [← Nat.pow_add]
        exact hhigh)
    rw [hunit] at hround hmant
    rw [hexp, hmant, htop]
    generalize 2 ^ 970 = u at *
    constructor
    · intro h
      by_cases hup : roundQuotient num (2 ^ 1 * u) = 2 ^ 53
      · have hwide := hround.mp hup
        omega
      · rw [if_neg hup] at h
        omega
    · intro h
      rw [if_pos (hround.mpr (by omega))]
      decide
  · have hexp : 972 ≤ exponentOf num := by
      simp only [exponentOf, leastExponent]
      omega
    have hlarge : 2 ^ 1024 ≤ num :=
      (Nat.pow_le_pow_right (by decide) hmore).trans hlow
    constructor
    · intro _
      exact (Nat.sub_le _ _).trans hlarge
    · intro _
      split <;> omega

end Toolsmith.Binary64
