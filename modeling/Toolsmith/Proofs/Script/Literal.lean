/-
Texts as program literals, read back. A character stands in a literal for
itself or behind a backslash, and each way is undone by the reader of string
tokens. The quotes do not show in between, since a quote of their kind is
escaped, and neither does a line break, since none of them is printable.
-/
import Toolsmith.Proofs.Generate.Outline.Literals
import Toolsmith.Proofs.Text.Escapes
import Toolsmith.Script.Literal

namespace Toolsmith.Script

open Text Generate.Outline

variable {quote c : Char} {s rest : List Char}

-- ================================================================ ways

/-- The ways to write a character in a literal: behind a backslash as a letter
or as itself, in hexadecimal digits behind the letter of their number, or as
it is. -/
inductive Spelled (quote c : Char) : List Char → Prop where
  | short {e : Char} (he : shortEscape? e = some c) :
      Spelled quote c ['\\', e]
  | digits {letter : Char} {width : Nat} (hwidth : hexWidth? letter = some width)
      (hfits : codePoint c < 16 ^ width) :
      Spelled quote c ('\\' :: letter :: hexText width (codePoint c))
  | plain (hquote : c ≠ quote) (hescape : c ≠ '\\')
      (hprintable : isPrintable c = true) : Spelled quote c [c]

/-- The escape of a code point has digits enough for it. -/
theorem spelled_codeEscape (quote c : Char) :
    Spelled quote c (codeEscape (codePoint c)) := by
  have hle := codePoint_le c
  unfold codeEscape
  split
  next h => exact .digits rfl h
  split
  next h => exact .digits rfl h
  · exact .digits rfl (by omega)

theorem spelled_literalChar (hquote : IsPlainQuote quote) (c : Char) :
    Spelled quote c (literalChar quote c) := by
  unfold literalChar
  split
  next h =>
    rcases Bool.or_eq_true_iff.mp h with h | h
    · rw [eq_of_beq h]
      rcases hquote with rfl | rfl <;> exact .short rfl
    · rw [eq_of_beq h]
      exact .short rfl
  next hother =>
  split
  next h => rw [eq_of_beq h]; exact .short rfl
  split
  next h => rw [eq_of_beq h]; exact .short rfl
  split
  next h => rw [eq_of_beq h]; exact .short rfl
  split
  next hprintable =>
    simp only [Bool.or_eq_true, beq_iff_eq, not_or] at hother
    exact .plain hother.1 hother.2 hprintable
  · exact spelled_codeEscape quote c

/-- A letter that digits follow begins no other escape. -/
theorem hexWidth?_cases {letter : Char} {width : Nat}
    (h : hexWidth? letter = some width) :
    letter = 'x' ∧ width = 2 ∨ letter = 'u' ∧ width = 4
      ∨ letter = 'U' ∧ width = 8 := by
  unfold hexWidth? at h
  split at h
  · exact Or.inl ⟨rfl, (Option.some.inj h).symm⟩
  · exact Or.inr (Or.inl ⟨rfl, (Option.some.inj h).symm⟩)
  · exact Or.inr (Or.inr ⟨rfl, (Option.some.inj h).symm⟩)
  · cases h

-- ========================================================== characters

/-- An escape by digits, of any letter. -/
theorem unescapeText_hex {letter : Char} {width : Nat}
    (hwidth : hexWidth? letter = some width) (fuel place : Nat) :
    unescapeText (fuel + 1) place ('\\' :: letter :: rest) =
      (let digits := (rest.take width).takeWhile (hexValue? · |>.isSome)
       let stop := place + 2 + digits.length
       let n := Number.ofDigits 16 (digits.filterMap hexValue?)
       if digits.length < width then
         .error (badEscape place stop ("truncated \\"
           ++ String.ofList (letter :: List.replicate width 'X') ++ " escape"))
       else if 0x10ffff < n then
         .error (badEscape place stop "illegal Unicode character")
       else
         prepend [ofCodePoint n]
           (unescapeText fuel stop (rest.drop width))) := by
  rcases hexWidth?_cases hwidth with ⟨rfl, rfl⟩ | ⟨rfl, rfl⟩ | ⟨rfl, rfl⟩
  · rfl
  · rfl
  · rfl

/-- The digits of an escape are read as the character. -/
theorem unescapeText_digits {letter : Char} {width : Nat}
    (hwidth : hexWidth? letter = some width)
    (hfits : codePoint c < 16 ^ width) (fuel place : Nat) :
    unescapeText (fuel + 1) place
        ('\\' :: letter :: (hexText width (codePoint c) ++ rest))
      = prepend [c] (unescapeText fuel (place + 2 + width) rest) := by
  have hlength := length_hexText width (codePoint c)
  have hdigits : (hexText width (codePoint c)).takeWhile
      (hexValue? · |>.isSome) = hexText width (codePoint c) :=
    List.takeWhile_eq_self_iff.mpr fun _ => isSome_hexValue?_of_mem
  have hle : ¬ 0x10ffff < codePoint c := Nat.not_lt.mpr (codePoint_le c)
  rw [unescapeText_hex hwidth]
  dsimp only
  rw [List.take_left' hlength, List.drop_left' hlength, hdigits, hlength,
    if_neg (Nat.lt_irrefl width), ofDigits_hexText hfits, if_neg hle,
    ofCodePoint_codePoint]

/-- A character is read by the way it is written. -/
theorem unescapeText_spelled {t : List Char} (h : Spelled quote c t)
    (fuel place : Nat) :
    ∃ place', unescapeText (fuel + 1) place (t ++ rest)
      = prepend [c] (unescapeText fuel place' rest) := by
  cases h with
  | short he =>
      refine ⟨place + 2, ?_⟩
      rw [List.cons_append, List.cons_append, List.nil_append]
      rw [unescapeText.eq_def]
      simp only [he]
  | digits hwidth hfits =>
      exact ⟨_, unescapeText_digits hwidth hfits fuel place⟩
  | plain _ hescape _ =>
      refine ⟨place + escapedWidth c, ?_⟩
      show unescapeText (fuel + 1) place (c :: rest) = _
      rw [unescapeText]
      · exact fun h => absurd h hescape
      · exact fun _ _ h => absurd h hescape

/-- The body of a literal is read as the text. -/
theorem unescapeText_flatMap (hquote : IsPlainQuote quote) (fuel : Nat)
    (hfuel : s.length ≤ fuel) (place : Nat) :
    unescapeText fuel place (s.flatMap (literalChar quote)) = .ok s := by
  induction s generalizing fuel place with
  | nil => cases fuel <;> rfl
  | cons c rest ih =>
      cases fuel with
      | zero => cases hfuel
      | succ fuel =>
          have hrest := ih fuel (Nat.le_of_succ_le_succ hfuel)
          obtain ⟨place', hstep⟩ :=
            unescapeText_spelled (spelled_literalChar hquote c) fuel place
          rw [List.flatMap_cons, hstep, hrest place']
          rfl

-- ================================================================ ends

/-- Characters that are neither the quote nor a backslash nor a line feed do
not end a string. -/
theorem stringEnd_plain {t : List Char}
    (h : ∀ x ∈ t, x ≠ quote ∧ x ≠ '\\' ∧ x ≠ '\n') (count : Nat) :
    stringEnd quote 1 0 count (t ++ rest)
      = stringEnd quote 1 0 (count + t.length) rest := by
  induction t generalizing count with
  | nil => rfl
  | cons x more ih =>
      obtain ⟨⟨hquote, hescape, hfeed⟩, hmore⟩ := List.forall_mem_cons.mp h
      have hstep : stringEnd quote 1 0 count (x :: (more ++ rest))
          = stringEnd quote 1 0 (count + 1) (more ++ rest) := by
        rw [stringEnd]
        · simp [hquote, hfeed]
        · exact fun h => absurd h hescape
        · exact fun _ _ h => absurd h hescape
      rw [List.cons_append, hstep, ih hmore, List.length_cons, Nat.add_assoc,
        Nat.add_comm 1]

/-- Line breaks are not printable. -/
theorem isLineBreak_of_isPrintable (h : isPrintable c = true) :
    isLineBreak c = false := by
  have hnext : inRanges unprintableRanges 0x85 = true := by decide +kernel
  have hline : inRanges unprintableRanges 0x2028 = true := by decide +kernel
  have hparagraph : inRanges unprintableRanges 0x2029 = true := by
    decide +kernel
  refine Bool.eq_false_iff.mpr fun hbreak => ?_
  simp only [isLineBreak, Bool.or_eq_true, Bool.and_eq_true,
    decide_eq_true_eq, beq_iff_eq] at hbreak
  simp only [isPrintable, Bool.or_eq_true, Bool.and_eq_true,
    decide_eq_true_eq, Bool.not_eq_true'] at h
  rcases hbreak with (((hlow | hlow) | heq) | heq) | heq
  · omega
  · omega
  · rw [heq, hnext] at h
    simp at h
  · rw [heq, hline] at h
    simp at h
  · rw [heq, hparagraph] at h
    simp at h

/-- A way to write a character shows no quote and no backslash that would
reach beyond it. -/
theorem stringEnd_spelled {t : List Char} (hquote : IsPlainQuote quote)
    (h : Spelled quote c t) (count : Nat) :
    stringEnd quote 1 0 count (t ++ rest)
      = stringEnd quote 1 0 (count + t.length) rest := by
  cases h with
  | short he =>
      rw [List.cons_append, List.cons_append, List.nil_append, stringEnd]
      rfl
  | @digits letter width hwidth _ =>
      have hhex : ∀ x ∈ hexText width (codePoint c),
          x ≠ quote ∧ x ≠ '\\' ∧ x ≠ '\n' := by
        intro x hx
        have hsome := isSome_hexValue?_of_mem hx
        have hother : ∀ d, hexValue? d = none → x ≠ d := by
          intro d hd heq
          rw [heq, hd] at hsome
          cases hsome
        refine ⟨?_, hother _ rfl, hother _ rfl⟩
        rcases hquote with rfl | rfl <;> exact hother _ rfl
      have hcount : count + 2 + (hexText width (codePoint c)).length
          = count + ('\\' :: letter :: hexText width (codePoint c)).length := by
        simp only [List.length_cons]
        omega
      rw [List.cons_append, List.cons_append, stringEnd, stringEnd_plain hhex,
        hcount]
  | plain hother hescape hprintable =>
      refine stringEnd_plain ?_ count
      intro x hx
      obtain rfl := List.mem_singleton.mp hx
      refine ⟨hother, hescape, ?_⟩
      rintro rfl
      cases isLineBreak_of_isPrintable hprintable

/-- Visible characters are no line breaks. -/
theorem isLineBreak_of_isVisible (h : isVisible c = true) :
    isLineBreak c = false := by
  refine isLineBreak_of_isPrintable ?_
  unfold isPrintable
  unfold isVisible at h
  simp only [h, Bool.true_or]

/-- The letter of a short escape is visible. -/
theorem isVisible_of_shortEscape? {e : Char} (h : shortEscape? e = some c) :
    isVisible e = true := by
  unfold shortEscape? at h
  split at h
  case h_11 => cases h
  all_goals rfl

/-- A way to write a character shows no line break. -/
theorem isLineBreak_of_spelled {t : List Char} (h : Spelled quote c t) :
    ∀ x ∈ t, isLineBreak x = false := by
  cases h with
  | short he =>
      refine List.forall_mem_cons.mpr ⟨rfl, ?_⟩
      exact List.forall_mem_singleton.mpr
        (isLineBreak_of_isVisible (isVisible_of_shortEscape? he))
  | digits hwidth _ =>
      refine List.forall_mem_cons.mpr ⟨rfl, List.forall_mem_cons.mpr ⟨?_, ?_⟩⟩
      · rcases hexWidth?_cases hwidth with ⟨rfl, -⟩ | ⟨rfl, -⟩ | ⟨rfl, -⟩
        · rfl
        · rfl
        · rfl
      · exact fun x hx => isLineBreak_of_isVisible (visible_hexText _ _ x hx)
  | plain _ _ hprintable =>
      exact List.forall_mem_singleton.mpr
        (isLineBreak_of_isPrintable hprintable)

-- =============================================================== texts

/-- A token that opens with one quote and not with three. -/
theorem ofToken_quoted (hquote : IsPlainQuote quote) {body : List Char}
    (hbody : body.head? ≠ some quote) :
    StringParts.ofToken (quote :: body ++ [quote])
      = ⟨false, false, false, body⟩ := by
  have hletters : ((quote :: body ++ [quote]).takeWhile
      fun c => !(c == '"' || c == '\'')) = [] := by
    rcases hquote with rfl | rfl <;> rfl
  have hinside : ((quote :: body ++ [quote]).drop 1).take
      ((quote :: body ++ [quote]).length - 2 * 1) = body := by
    have hlength : (quote :: body ++ [quote]).length - 2 * 1 = body.length := by
      simp
    rw [hlength]
    exact List.take_left
  unfold StringParts.ofToken
  dsimp only
  rw [hletters, List.map_nil, List.length_nil, List.drop_zero]
  refine congrArg (StringParts.mk false false false) ?_
  split
  next a b _ _ _ heq =>
    have hother : (a == b) = false := by
      refine beq_eq_false_iff_ne.mpr ?_
      rintro rfl
      cases body with
      | nil => cases heq
      | cons x more =>
          obtain ⟨hfirst, hbehind⟩ := List.cons.inj heq
          obtain ⟨hsecond, -⟩ := List.cons.inj hbehind
          exact hbody (by rw [List.head?_cons, hsecond, hfirst])
    rw [hother, Bool.false_and, if_neg Bool.false_ne_true]
    exact hinside
  · exact hinside

/-- The body of a literal does not begin with its quote. -/
theorem head?_flatMap_ne (hquote : IsPlainQuote quote) (s : List Char) :
    (s.flatMap (literalChar quote)).head? ≠ some quote := by
  have hescape : quote ≠ '\\' := by
    rcases hquote with rfl | rfl <;> decide
  cases s with
  | nil => simp
  | cons c rest =>
      have hspelled := spelled_literalChar hquote c
      rw [List.flatMap_cons]
      generalize literalChar quote c = t at hspelled
      cases hspelled with
      | short => simpa using hescape.symm
      | digits => simpa using hescape.symm
      | plain hother => simpa using hother

/-- The body of a literal holds no closing quote. -/
theorem stringEnd_flatMap (hquote : IsPlainQuote quote) (s : List Char)
    (count : Nat) :
    stringEnd quote 1 0 count
        (s.flatMap (literalChar quote) ++ quote :: rest)
      = some (count + (s.flatMap (literalChar quote)).length + 1) := by
  induction s generalizing count with
  | nil =>
      rcases hquote with rfl | rfl
      · rfl
      · rfl
  | cons c more ih =>
      rw [List.flatMap_cons, List.append_assoc,
        stringEnd_spelled hquote (spelled_literalChar hquote c), ih,
        List.length_append]
      simp only [Nat.add_assoc]

/-- No text is shorter than its body in a literal. -/
theorem length_le_flatMap_literalChar (hquote : IsPlainQuote quote)
    (s : List Char) : s.length ≤ (s.flatMap (literalChar quote)).length := by
  induction s with
  | nil => exact Nat.le_refl 0
  | cons c rest ih =>
      have hpos : 0 < (literalChar quote c).length := by
        have hspelled := spelled_literalChar hquote c
        generalize literalChar quote c = t at hspelled
        cases hspelled <;> simp
      rw [List.flatMap_cons, List.length_append, List.length_cons]
      omega

/-- A text as a program literal: between quotes that show nowhere inside but
behind a backslash, on one line, and read as the text. -/
theorem literalText_readBack (s : List Char) :
    ∃ quote body, literalText s = quote :: body ++ [quote]
      ∧ IsPlainQuote quote
      ∧ (∀ rest, stringEnd quote 1 0 0 (body ++ quote :: rest)
          = some (body.length + 1))
      ∧ (∀ x ∈ literalText s, isLineBreak x = false)
      ∧ (StringParts.ofToken (literalText s)).value = .ok s := by
  have hquote := isPlainQuote_quoteFor s
  have htext : literalText s
      = quoteFor s :: s.flatMap (literalChar (quoteFor s)) ++ [quoteFor s] :=
    rfl
  rw [htext]
  generalize quoteFor s = quote at hquote
  refine ⟨quote, s.flatMap (literalChar quote), rfl, hquote, ?_, ?_, ?_⟩
  · intro rest
    rw [stringEnd_flatMap hquote s 0, Nat.zero_add]
  · have hbreak : isLineBreak quote = false := by
      rcases hquote with rfl | rfl <;> rfl
    intro x hx
    rw [List.mem_append, List.mem_cons, List.mem_singleton] at hx
    rcases hx with (rfl | hx) | rfl
    · exact hbreak
    · obtain ⟨c, -, hx⟩ := List.mem_flatMap.mp hx
      exact isLineBreak_of_spelled (spelled_literalChar hquote c) x hx
    · exact hbreak
  · rw [ofToken_quoted hquote (head?_flatMap_ne hquote s)]
    exact unescapeText_flatMap hquote _
      (length_le_flatMap_literalChar hquote s) 0

end Toolsmith.Script
