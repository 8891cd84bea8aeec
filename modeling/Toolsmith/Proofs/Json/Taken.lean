/-
What the JSON reader takes of a text. It reads a value off the characters of
that value alone: where they stand again with less behind them, or with
nothing, it reads the same. So the space around a value does not count, and
what is read as an object is, without that space, a text from an opening brace
to a closing one that is read as the same object.

`Takes` says this of a reader at a place: it takes so many characters, and from
every place with a shorter text that still has them it reads the same. Some
readers look at what follows, to see where a number ends or whether a second
half of a pair comes next; a shorter text shows them less of it, but nothing
new.
-/
import Mathlib.Data.List.Infix
import Mathlib.Data.List.TakeWhile
import Toolsmith.Proofs.Json.Limits
import Toolsmith.Proofs.Value.Surrogates

namespace Toolsmith.Json

open Text

-- ============================================================== scanning

/-- A shorter text that is not empty begins as the text does. -/
theorem head?_of_isPrefix {s t : List Char} (h : s <+: t) (hs : s ≠ []) :
    s.head? = t.head? := by
  obtain ⟨more, rfl⟩ := h
  cases s with
  | nil => exact absurd rfl hs
  | cons c rest => rfl

/-- A shorter text with a first character has that of the text. -/
theorem exists_cons_of_isPrefix {s t rest : List Char} {x : Char}
    (h : s <+: t) (ht : t = x :: rest) (hs : 0 < s.length) :
    ∃ rest', s = x :: rest' ∧ rest' <+: rest := by
  cases s with
  | nil => cases hs
  | cons y rest' =>
      rw [ht] at h
      obtain ⟨rfl, hrest⟩ := List.cons_prefix_cons.mp h
      exact ⟨rest', rfl, hrest⟩

/-- A run that ends inside of a shorter text ends there as it does in the
text. -/
theorem takeWhile_of_isPrefix {p : Char → Bool} {s t : List Char}
    (h : s <+: t) (hlength : (t.takeWhile p).length ≤ s.length) :
    s.takeWhile p = t.takeWhile p := by
  induction s generalizing t with
  | nil =>
      rw [List.length_eq_zero_iff.mp (Nat.le_zero.mp hlength)]
      rfl
  | cons c s ih =>
      obtain ⟨more, rfl⟩ := h
      rw [List.cons_append] at hlength ⊢
      by_cases hc : p c = true
      · rw [List.takeWhile_cons_of_pos hc, List.length_cons] at hlength
        rw [List.takeWhile_cons_of_pos hc, List.takeWhile_cons_of_pos hc,
          ih (List.prefix_append s more) (Nat.le_of_succ_le_succ hlength)]
      · rw [List.takeWhile_cons_of_neg hc, List.takeWhile_cons_of_neg hc]

/-- The whole part of a number in a shorter text. -/
theorem wholeOf_of_isPrefix {s t : List Char} (h : s <+: t)
    (hlength : (wholeOf t).length ≤ s.length) : wholeOf s = wholeOf t := by
  cases s with
  | nil =>
      rw [List.length_eq_zero_iff.mp (Nat.le_zero.mp hlength)]
      rfl
  | cons c s =>
      unfold wholeOf at hlength ⊢
      rw [head?_of_isPrefix h (List.cons_ne_nil c s)]
      split
      · rfl
      next hzero =>
        rw [if_neg hzero] at hlength
        exact takeWhile_of_isPrefix h hlength

/-- The fraction of a number in a shorter text. -/
theorem fractionLength_of_isPrefix {s t : List Char} (h : s <+: t)
    (hlength : fractionLength t ≤ s.length) :
    fractionLength s = fractionLength t := by
  cases s with
  | nil => exact (Nat.le_zero.mp hlength).symm
  | cons c s =>
      obtain ⟨more, rfl⟩ := h
      rw [List.cons_append] at hlength ⊢
      by_cases hc : c = '.'
      · subst hc
        have hdigits : digitsOf s = digitsOf (s ++ more) := by
          refine takeWhile_of_isPrefix (List.prefix_append s more) ?_
          change (if (digitsOf (s ++ more)).length == 0 then 0
            else (digitsOf (s ++ more)).length + 1) ≤ (s.length + 1) at hlength
          split at hlength
          next hzero =>
            have hnone : (digitsOf (s ++ more)).length = 0 := eq_of_beq hzero
            exact Nat.le_trans (Nat.le_of_eq hnone) (Nat.zero_le _)
          · exact Nat.le_of_succ_le_succ hlength
        simp only [fractionLength, hdigits]
      · have hother : ∀ rest, fractionLength (c :: rest) = 0 := by
          intro rest
          unfold fractionLength
          split
          next heq => exact absurd (List.cons.inj heq).1 hc
          · rfl
        rw [hother, hother]

/-- The length of a sign at the start of an exponent. -/
def signLength (s : List Char) : Nat :=
  if s.head? == some '-' || s.head? == some '+' then 1 else 0

/-- The length of an exponent behind its letter, zero if it has no digits. -/
def powerLength (s : List Char) : Nat :=
  let n := (digitsOf (s.drop (signLength s))).length
  if n == 0 then 0 else n + 1 + signLength s

/-- An exponent is a letter and what stands behind it. -/
theorem exponentLength_cons (c : Char) (s : List Char) :
    exponentLength (c :: s)
      = if c == 'e' || c == 'E' then powerLength s else 0 :=
  rfl

/-- What stands behind the letter of an exponent, in a shorter text. -/
theorem powerLength_of_isPrefix {s t : List Char} (h : s <+: t)
    (hlength : powerLength t ≤ s.length + 1) :
    powerLength s = powerLength t := by
  have hdrop := h.drop (signLength t)
  -- Digits that count are in the shorter text, and none are as few there.
  have hdigits : digitsOf (s.drop (signLength t))
      = digitsOf (t.drop (signLength t)) := by
    refine takeWhile_of_isPrefix hdrop ?_
    change (digitsOf _).length ≤ _
    unfold powerLength at hlength
    rw [List.length_drop]
    dsimp only at hlength
    split at hlength
    next hzero =>
      rw [eq_of_beq hzero]
      exact Nat.zero_le _
    · omega
  cases s with
  | nil =>
      rw [List.drop_nil] at hdigits
      unfold powerLength
      rw [← hdigits]
      rfl
  | cons d s =>
      have hsign : signLength (d :: s) = signLength t := by
        unfold signLength
        rw [head?_of_isPrefix h (List.cons_ne_nil d s)]
      unfold powerLength
      rw [hsign, hdigits]

/-- The exponent of a number in a shorter text. -/
theorem exponentLength_of_isPrefix {s t : List Char} (h : s <+: t)
    (hlength : exponentLength t ≤ s.length) :
    exponentLength s = exponentLength t := by
  cases s with
  | nil => exact (Nat.le_zero.mp hlength).symm
  | cons c s =>
      obtain ⟨more, rfl⟩ := h
      rw [List.cons_append, exponentLength_cons] at hlength ⊢
      rw [exponentLength_cons]
      split
      next hc =>
        rw [if_pos hc] at hlength
        exact powerLength_of_isPrefix (List.prefix_append s more) hlength
      · rfl

/-- A fraction is no longer than its text. -/
theorem fractionLength_le (s : List Char) : fractionLength s ≤ s.length := by
  unfold fractionLength
  split
  next rest =>
    have hdigits : (digitsOf rest).length ≤ rest.length :=
      (List.takeWhile_prefix isAsciiDigit).length_le
    rw [List.length_cons]
    dsimp only
    split <;> omega
  · exact Nat.zero_le _

/-- An exponent is no longer than its text. -/
theorem exponentLength_le (s : List Char) : exponentLength s ≤ s.length := by
  cases s with
  | nil => exact Nat.le_refl 0
  | cons c rest =>
      have hdigits : (digitsOf (rest.drop (signLength rest))).length
          ≤ rest.length - signLength rest := by
        rw [← List.length_drop]
        exact (List.takeWhile_prefix isAsciiDigit).length_le
      rw [exponentLength_cons, List.length_cons]
      split
      · unfold powerLength
        dsimp only
        split
        · exact Nat.zero_le _
        next hsome =>
          have hne : (digitsOf (rest.drop (signLength rest))).length ≠ 0 :=
            fun heq => hsome (beq_iff_eq.mpr heq)
          omega
      · exact Nat.zero_le _

-- ============================================================== numbers

/-- The length of a sign at the start of a number. -/
def minusLength (s : List Char) : Nat :=
  if s.head? == some '-' then 1 else 0

/-- The whole part of the number at the start of a text. -/
def wholePart (s : List Char) : List Char := wholeOf (s.drop (minusLength s))

/-- The length of the fraction of the number at the start of a text. -/
def fractionPart (s : List Char) : Nat :=
  fractionLength ((s.drop (minusLength s)).drop (wholePart s).length)

/-- The length of the exponent of the number at the start of a text. -/
def powerPart (s : List Char) : Nat :=
  exponentLength
    ((s.drop (minusLength s)).drop ((wholePart s).length + fractionPart s))

/-- The length of the number at the start of a text. -/
def numberLength (s : List Char) : Nat :=
  minusLength s + (wholePart s).length + fractionPart s + powerPart s

/-- A number is read by its parts. -/
theorem readNumber_eq (cur : Cursor) :
    readNumber cur =
      if (wholePart cur.rest).isEmpty then cur.refuse .value
      else if fractionPart cur.rest == 0 && powerPart cur.rest == 0 then
        match Number.int? 10 (cur.rest.take (numberLength cur.rest)) with
        | .ok n => .ok (.int n, cur.forward (numberLength cur.rest))
        | .error _ => .error (.integerTooLong (wholePart cur.rest).length)
      else
        match Number.float? (cur.rest.take (numberLength cur.rest)) with
        | some x => .ok (.float x, cur.forward (numberLength cur.rest))
        | none => cur.refuse .value := by
  unfold readNumber numberLength powerPart fractionPart wholePart minusLength
    wholeOf
  -- the sides differ in their matches only, and no number has to be read
  with_reducible_and_instances rfl

/-- A number is no longer than its text. -/
theorem numberLength_le {s : List Char} (h : wholePart s ≠ []) :
    numberLength s ≤ s.length := by
  have hwhole := (wholeOf_isPrefix (s.drop (minusLength s))).1.length_le
  have hfraction := fractionLength_le
    ((s.drop (minusLength s)).drop (wholePart s).length)
  have hpower := exponentLength_le
    ((s.drop (minusLength s)).drop ((wholePart s).length + fractionPart s))
  have hsome := List.length_pos_iff.mpr h
  change (wholePart s).length ≤ _ at hwhole
  change fractionPart s ≤ _ at hfraction
  change powerPart s ≤ _ at hpower
  unfold numberLength
  simp only [List.length_drop] at hwhole hfraction hpower
  omega

/-- A shorter text that has the number has the same parts of it. -/
theorem parts_of_isPrefix {s t : List Char} (h : s <+: t)
    (hwhole : wholePart t ≠ []) (hlength : numberLength t ≤ s.length) :
    minusLength s = minusLength t ∧ wholePart s = wholePart t
      ∧ fractionPart s = fractionPart t ∧ powerPart s = powerPart t := by
  have hpos := List.length_pos_iff.mpr hwhole
  unfold numberLength at hlength
  have hs : s ≠ [] := by
    rintro rfl
    rw [List.length_nil] at hlength
    omega
  have hminus : minusLength s = minusLength t := by
    unfold minusLength
    rw [head?_of_isPrefix h hs]
  have hbody := h.drop (minusLength t)
  have hwholes : wholePart s = wholePart t := by
    unfold wholePart
    rw [hminus]
    refine wholeOf_of_isPrefix hbody ?_
    change (wholePart t).length ≤ _
    rw [List.length_drop]
    omega
  have hfractions : fractionPart s = fractionPart t := by
    unfold fractionPart
    rw [hminus, hwholes]
    refine fractionLength_of_isPrefix (hbody.drop _) ?_
    change fractionPart t ≤ _
    simp only [List.length_drop]
    omega
  refine ⟨hminus, hwholes, hfractions, ?_⟩
  unfold powerPart
  rw [hminus, hwholes, hfractions]
  refine exponentLength_of_isPrefix (hbody.drop _) ?_
  change powerPart t ≤ _
  simp only [List.length_drop]
  omega

-- ============================================================== readers

variable {α β ι κ μ : Type}

/-- Reading at `c` has taken some characters, given `a` and ended at `next`;
and the reader `again` reads the same at every place where these characters
stand, with no more behind them than there is here. The index of the reader
says how far it can go: it reads texts shorter than `size` of it. -/
def Takes (size : ι → Nat) (again : ι → Cursor → Except Fault (α × Cursor))
    (c : Cursor) (a : α) (next : Cursor) : Prop :=
  ∃ n, 0 < n ∧ n ≤ c.rest.length ∧ next = c.forward n
    ∧ ∀ (i : ι) (c' : Cursor), c'.rest <+: c.rest → n ≤ c'.rest.length →
      c'.rest.length < size i → c'.rest.length < c'.limit →
      again i c' = .ok (a, c'.forward n)

/-- One way forward after another. -/
theorem Cursor.forward_forward (c : Cursor) (m n : Nat) :
    (c.forward m).forward n = c.forward (m + n) := by
  unfold Cursor.forward
  rw [List.drop_drop, Nat.add_assoc]

/-- The characters to come further on. -/
theorem Cursor.length_forward (c : Cursor) (n : Nat) :
    (c.forward n).rest.length = c.rest.length - n :=
  List.length_drop

variable {size : ι → Nat} {few : κ → Nat} {c mid next : Cursor} {a : α}
  {b : β} {again : ι → Cursor → Except Fault (α × Cursor)}

/-- A reader that goes forward and then reads on. -/
theorem Takes.after {m : Nat} {g : κ → Cursor → Except Fault (α × Cursor)}
    (h : Takes few g (c.forward m) a next)
    (hagain : ∀ i (c' : Cursor), c'.rest <+: c.rest → m < c'.rest.length →
      c'.rest.length < size i → c'.rest.length < c'.limit →
      ∃ j, c'.rest.length - m < few j
        ∧ again i c' = g j (c'.forward m)) :
    Takes size again c a next := by
  obtain ⟨n, hpos, hn, rfl, hg⟩ := h
  rw [Cursor.length_forward] at hn
  refine ⟨m + n, by omega, by omega, c.forward_forward m n, ?_⟩
  intro i c' hbegins hlength hsize hlimit
  obtain ⟨j, hfew, heq⟩ := hagain i c' hbegins (by omega) hsize hlimit
  have hrest := c'.length_forward m
  rw [heq, hg j (c'.forward m) (hbegins.drop m) (by omega) (by omega)
    (by change _ < c'.limit; omega), Cursor.forward_forward]

/-- One reader and then another one, with what the first has read. -/
theorem Takes.bind {lot : μ → Nat}
    {f : κ → Cursor → Except Fault (α × Cursor)}
    {g : μ → α × Cursor → Except Fault (β × Cursor)}
    {both : ι → Cursor → Except Fault (β × Cursor)}
    (hf : Takes few f c a mid)
    (hg : Takes lot (fun k c' => g k (a, c')) mid b next)
    (hboth : ∀ i (c' : Cursor), c'.rest <+: c.rest →
      0 < c'.rest.length → c'.rest.length < size i →
      c'.rest.length < c'.limit →
      ∃ j k, c'.rest.length < few j ∧ c'.rest.length ≤ lot k
        ∧ both i c' = f j c' >>= g k) :
    Takes size both c b next := by
  obtain ⟨m, hpos, hm, rfl, hread⟩ := hf
  refine hg.after fun i c' hbegins hlength hsize hlimit => ?_
  obtain ⟨j, k, hfew, hlot, heq⟩ := hboth i c' hbegins (by omega) hsize hlimit
  refine ⟨k, by omega, ?_⟩
  rw [heq, hread j c' hbegins (by omega) hfew hlimit]
  rfl

/-- A reader whose answer is changed. -/
theorem Takes.map (h : Takes size again c a next) (f : α → β) :
    Takes size (fun i c' => again i c' >>= fun made =>
      (.ok (f made.1, made.2) : Except Fault _)) c (f a) next := by
  obtain ⟨n, hpos, hn, rfl, hread⟩ := h
  refine ⟨n, hpos, hn, rfl, fun i c' hbegins hlength hsize hlimit => ?_⟩
  dsimp only
  rw [hread i c' hbegins hlength hsize hlimit]
  rfl

/-- A reader that takes one character. -/
theorem takes_one (size : ι → Nat) {x : Char} {rest : List Char}
    (h : c.rest = x :: rest) (a : α) :
    Takes size (fun _ c' => .ok (a, c'.forward 1)) c a (c.forward 1) := by
  refine ⟨1, Nat.one_pos, ?_, rfl, fun _ _ _ _ _ _ => rfl⟩
  rw [h, List.length_cons]
  exact Nat.succ_le_succ (Nat.zero_le _)

/-- The characters that may stand between the parts of a text. -/
def isSpace (x : Char) : Bool :=
  x == ' ' || x == '\t' || x == '\n' || x == '\r'

/-- A reader that goes over space and then reads on. -/
theorem Takes.space {g : κ → Cursor → Except Fault (α × Cursor)}
    (h : Takes few g c.skipSpace a next) :
    Takes few (fun j c' => g j c'.skipSpace) c a next := by
  refine h.after fun j c' hbegins hlength hfew _ => ⟨j, by omega, ?_⟩
  have hspace : (c'.rest.takeWhile isSpace) = c.rest.takeWhile isSpace :=
    takeWhile_of_isPrefix hbegins (Nat.le_of_lt hlength)
  change g j (c'.forward (c'.rest.takeWhile isSpace).length) = _
  rw [hspace]
  rfl

/-- A number is read by its own characters. -/
theorem takes_readNumber {v : Value} (h : readNumber c = .ok (v, next)) :
    Takes size (fun _ => readNumber) c v next := by
  rw [readNumber_eq] at h
  split at h
  · cases h
  next hempty =>
  have hwhole : wholePart c.rest ≠ [] := fun heq => hempty (by rw [heq]; rfl)
  have hpos := List.length_pos_iff.mpr hwhole
  have hnext : next = c.forward (numberLength c.rest) := by
    split at h
    · split at h <;> cases h
      rfl
    · split at h <;> cases h
      rfl
  refine ⟨numberLength c.rest, ?_, numberLength_le hwhole, hnext, ?_⟩
  · unfold numberLength
    omega
  intro _ c' hbegins hlength _ _
  obtain ⟨hminus, hwholes, hfractions, hpowers⟩ :=
    parts_of_isPrefix hbegins hwhole hlength
  have hnumber : numberLength c'.rest = numberLength c.rest := by
    unfold numberLength
    rw [hminus, hwholes, hfractions, hpowers]
  have htake : c'.rest.take (numberLength c.rest)
      = c.rest.take (numberLength c.rest) := by
    obtain ⟨more, hmore⟩ := hbegins
    rw [← hmore, List.take_append_of_le_length (hmore ▸ hlength)]
  dsimp only
  rw [readNumber_eq, hwholes, hfractions, hpowers, hnumber, htake,
    if_neg hempty]
  split at h
  next hplain =>
    rw [if_pos hplain]
    split at h <;> cases h
    rfl
  next hplain =>
    rw [if_neg hplain]
    split at h <;> cases h
    rfl

/-- The words for values are of one character or more. -/
theorem takes_readScalar {v : Value} (h : readScalar c = .ok (v, next)) :
    Takes size (fun _ => readScalar) c v next := by
  unfold readScalar at h
  split at h
  next w v' hfind =>
    cases h
    obtain ⟨hhere, before, after, hwords, hbefore⟩ :=
      List.find?_eq_some_iff_append.mp hfind
    have hbegins : w.toList <+: c.rest := List.isPrefixOf_iff_prefix.mp hhere
    have hpos : 0 < w.length := by
      have hmem := List.mem_of_find?_eq_some hfind
      simp only [words, List.mem_cons, Prod.mk.injEq, List.not_mem_nil,
        or_false] at hmem
      rcases hmem with ⟨rfl, _⟩ | ⟨rfl, _⟩ | ⟨rfl, _⟩ | ⟨rfl, _⟩ | ⟨rfl, _⟩
        | ⟨rfl, _⟩ <;> decide
    have hlength := hbegins.length_le
    rw [String.length_toList] at hlength
    refine ⟨w.length, hpos, hlength, rfl, fun _ c' hshort hle _ _ => ?_⟩
    have hfound : words.find? (fun entry => entry.1.toList.isPrefixOf c'.rest)
        = some (w, v) := by
      refine List.find?_eq_some_iff_append.mpr
        ⟨?_, before, after, hwords, fun entry hentry => ?_⟩
      · refine List.isPrefixOf_iff_prefix.mpr
          (List.prefix_of_prefix_length_le hbegins hshort ?_)
        rwa [String.length_toList]
      · -- what the shorter text begins with, the text begins with
        have hno := hbefore entry hentry
        simp only [Bool.not_eq_true'] at hno ⊢
        refine Bool.eq_false_iff.mpr fun hyes => ?_
        rw [List.isPrefixOf_iff_prefix.mpr
          ((List.isPrefixOf_iff_prefix.mp hyes).trans hshort)] at hno
        cases hno
    dsimp only
    unfold readScalar
    rw [hfound]
  next hnone =>
    have hnumber : Takes size (fun _ => readNumber) c v next :=
      takes_readNumber h
    obtain ⟨n, hpos, hle, hnext, hread⟩ := hnumber
    refine ⟨n, hpos, hle, hnext, fun i c' hshort hlength hsize hlimit => ?_⟩
    have hnot : words.find? (fun entry => entry.1.toList.isPrefixOf c'.rest)
        = none := by
      refine List.find?_eq_none.mpr fun entry hentry hyes => ?_
      exact List.find?_eq_none.mp hnone entry hentry
        (List.isPrefixOf_iff_prefix.mpr
          ((List.isPrefixOf_iff_prefix.mp hyes).trans hshort))
    dsimp only
    unfold readScalar
    rw [hnot]
    exact hread i c' hshort hlength hsize hlimit

-- ============================================================== strings

/-- The text behind the backslash and the letter of an escape by digits, if
such an escape follows and has enough behind it. -/
def digitsBehind? : List Char → Option (List Char)
  | '\\' :: 'u' :: hex => if (hex.take 5).length < 5 then none else some hex
  | _ => none

/-- What a first unit and the text behind its digits come to: the code point,
and how many characters are taken from the backslash on. -/
def pairing (high : Nat) (more : List Char) : Option (Nat × Nat) :=
  if isHighSurrogate high then
    match digitsBehind? more with
    | none => some (high, 6)
    | some hex =>
      (unit? hex).map fun found =>
        if isLowSurrogate found.1 then (pairValue high found.1, 12)
        else (high, 6)
  else some (high, 6)

/-- An escape by digits is read by its pairing. -/
theorem readString_unit {opening fuel : Nat} {hex : List Char}
    (h : c.rest = '\\' :: 'u' :: hex) :
    readString opening (fuel + 1) c =
      match unit? hex with
      | none => (c.forward 1).refuse .unicodeEscape
      | some (high, more) =>
        match pairing high more with
        | none => (c.forward 7).refuse .unicodeEscape
        | some (code, n) =>
          readString opening fuel (c.forward n) >>= fun made =>
            .ok (ofCodePoint code :: made.1, made.2) := by
  rw [readString]
  split
  next heq => cases h.symm.trans heq
  next heq => simp [h] at heq
  next heq => simp [h] at heq
  next hex' heq =>
    cases h.symm.trans heq
    cases unit? hex with
    | none => rfl
    | some found =>
        obtain ⟨high, more⟩ := found
        dsimp only
        split
        next hex₂ hhigh =>
          unfold pairing
          rw [if_pos hhigh, digitsBehind?]
          split
          · rfl
          · dsimp only
            cases unit? hex₂ with
            | none => rfl
            | some low =>
                rw [Option.map_some]
                dsimp only
                split <;> rfl
        next more _ _ hother =>
          have halone : pairing high more = some (high, 6) := by
            unfold pairing
            split
            next hhigh =>
              have hnone : digitsBehind? more = none := by
                unfold digitsBehind?
                split
                next hex₂ => exact absurd rfl (hother hex₂ hhigh)
                · rfl
              rw [hnone]
            · rfl
          rw [halone]
          rfl
  next e rest he heq =>
    cases h.symm.trans heq
    exact absurd rfl he
  next x rest _ _ hno _ heq =>
    cases h.symm.trans heq
    exact absurd rfl (hno hex rfl)

/-- A unit is read by its four digits and one character more. -/
theorem unit?_of_isPrefix {hex hex' more : List Char} {high : Nat}
    (h : unit? hex = some (high, more)) (hbegins : hex' <+: hex)
    (hlength : 5 ≤ hex'.length) :
    ∃ more', unit? hex' = some (high, more') ∧ more' <+: more
      ∧ hex'.length = more'.length + 4 := by
  obtain ⟨behind, rfl⟩ := hbegins
  match hex', hlength with
  | x :: y :: z :: w :: last :: rest, _ =>
      simp only [List.cons_append, unit?] at h ⊢
      obtain ⟨digits, hdigits, h⟩ := Option.bind_eq_some_iff.mp h
      cases h
      refine ⟨last :: rest, ?_, ⟨behind, rfl⟩, rfl⟩
      rw [hdigits]
      rfl

/-- A shorter text shows of an escape behind a unit what the text does, or
nothing. -/
theorem digitsBehind?_of_isPrefix {more more' : List Char}
    (h : more' <+: more) :
    digitsBehind? more' = none
      ∨ ∃ hex hex', digitsBehind? more = some hex
          ∧ digitsBehind? more' = some hex' ∧ hex' <+: hex
          ∧ 5 ≤ hex'.length := by
  obtain ⟨behind, rfl⟩ := h
  unfold digitsBehind?
  split
  next hex' =>
    split
    · exact Or.inl rfl
    next hlong =>
      rw [List.length_take] at hlong
      have hlonger : ¬ ((hex' ++ behind).take 5).length < 5 := by
        rw [List.length_take, List.length_append]
        omega
      refine Or.inr ⟨hex' ++ behind, hex', ?_, rfl, ⟨behind, rfl⟩, by omega⟩
      exact if_neg hlonger
  · exact Or.inl rfl

/-- An escape that is behind a unit takes seven characters at least. -/
theorem digitsBehind?_of_length {more more' hex : List Char}
    (hhex : digitsBehind? more = some hex) (h : more' <+: more)
    (hlength : 7 ≤ more'.length) : digitsBehind? more' ≠ none := by
  obtain ⟨behind, rfl⟩ := h
  match more', hlength with
  | x :: y :: hex', hlength =>
      unfold digitsBehind? at hhex ⊢
      rw [List.cons_append, List.cons_append] at hhex
      split at hhex
      next heq =>
        cases heq
        intro hnone
        change (if _ then _ else _) = _ at hnone
        rw [if_neg] at hnone
        · cases hnone
        · rw [List.length_take]
          rw [List.length_cons, List.length_cons] at hlength
          omega
      · cases hhex

/-- A pairing takes one unit or two. -/
theorem pairing_length {high code n : Nat} {more : List Char}
    (h : pairing high more = some (code, n)) : n = 6 ∨ n = 12 := by
  unfold pairing at h
  split at h
  · split at h
    · cases h
      exact Or.inl rfl
    · obtain ⟨found, -, h⟩ := Option.map_eq_some_iff.mp h
      split at h
      · exact Or.inr (Prod.mk.inj h).2.symm
      · exact Or.inl (Prod.mk.inj h).2.symm
  · cases h
    exact Or.inl rfl

/-- A shorter text that has what is taken, and one character more, comes to the
same. -/
theorem pairing_of_isPrefix {high code n : Nat} {more more' : List Char}
    (h : pairing high more = some (code, n)) (hbegins : more' <+: more)
    (hlength : n < more'.length + 6) :
    pairing high more' = some (code, n) := by
  unfold pairing at h ⊢
  split at h
  case isFalse hlow => rw [if_neg hlow, ← h]
  case isTrue hhigh =>
    rw [if_pos hhigh]
    rcases digitsBehind?_of_isPrefix hbegins with hnone
      | ⟨hex, hex', hhex, hhex', hin, hlong⟩
    · -- the shorter text hides what follows, so only one unit was taken
      rw [hnone]
      split at h
      · exact h
      next hex hhex =>
        obtain ⟨found, -, h⟩ := Option.map_eq_some_iff.mp h
        split at h
        · have hn := (Prod.mk.inj h).2
          exact absurd hnone (digitsBehind?_of_length hhex hbegins (by omega))
        · exact congrArg some h
    · rw [hhex] at h
      rw [hhex']
      obtain ⟨⟨low, behind⟩, hunit, h⟩ := Option.map_eq_some_iff.mp h
      obtain ⟨behind', hunit', -, -⟩ := unit?_of_isPrefix hunit hin hlong
      dsimp only
      rw [hunit', Option.map_some]
      exact congrArg some h

/-- A string ends at its quote. -/
theorem readString_quote {opening fuel : Nat} {rest : List Char}
    (h : c.rest = '"' :: rest) :
    readString opening (fuel + 1) c = .ok ([], c.forward 1) := by
  rw [readString]
  split
  next heq => cases h.symm.trans heq
  next => rfl
  next heq => simp [h] at heq
  next heq => simp [h] at heq
  next heq => simp [h] at heq
  next x _ hquote _ _ _ heq =>
    cases h.symm.trans heq
    exact absurd rfl hquote

/-- A short escape is two characters for one. -/
theorem readString_escape {opening fuel : Nat} {e x : Char} {rest : List Char}
    (h : c.rest = '\\' :: e :: rest) (he : e ≠ 'u')
    (hx : shortEscape? e = some x) :
    readString opening (fuel + 1) c =
      (readString opening fuel (c.forward 2) >>= fun made =>
        .ok (x :: made.1, made.2)) := by
  rw [readString]
  split
  next heq => cases h.symm.trans heq
  next heq => simp [h] at heq
  next heq => simp [h] at heq
  next heq =>
    cases h.symm.trans heq
    exact absurd rfl he
  next heq =>
    cases h.symm.trans heq
    rw [hx]
    rfl
  next hno heq =>
    cases h.symm.trans heq
    exact absurd rfl (hno e rest rfl)

/-- Every other character stands for itself. -/
theorem readString_plain {opening fuel : Nat} {x : Char} {rest : List Char}
    (h : c.rest = x :: rest) (hquote : x ≠ '"') (hescape : x ≠ '\\')
    (hx : ¬ x.toNat < 0x20) :
    readString opening (fuel + 1) c =
      (readString opening fuel (c.forward 1) >>= fun made =>
        .ok (x :: made.1, made.2)) := by
  rw [readString]
  split
  next heq => cases h.symm.trans heq
  next heq => exact absurd (List.cons.inj (h.symm.trans heq)).1 hquote
  next heq => exact absurd (List.cons.inj (h.symm.trans heq)).1 hescape
  next heq => exact absurd (List.cons.inj (h.symm.trans heq)).1 hescape
  next heq => exact absurd (List.cons.inj (h.symm.trans heq)).1 hescape
  next heq =>
    cases h.symm.trans heq
    rw [if_neg hx]
    rfl

/-- A string is read by its own characters. -/
theorem takes_readString (fuel : Nat) :
    ∀ {opening : Nat} {c next : Cursor} {s : List Char},
      readString opening fuel c = .ok (s, next) →
      Takes (fun i : Nat × Nat => i.2) (fun i => readString i.1 i.2)
        c s next := by
  induction fuel with
  | zero => intro opening c next s h; cases h
  | succ fuel ih =>
      intro opening c next s h
      -- what every branch that goes on comes to
      have hmore : ∀ (n : Nat) (x : Char), 0 < n →
          (readString opening fuel (c.forward n) >>= fun made =>
            (.ok (x :: made.1, made.2) : Except Fault _)) = .ok (s, next) →
          (∀ o fuel' (c' : Cursor), c'.rest <+: c.rest → n < c'.rest.length →
            readString o (fuel' + 1) c' =
              (readString o fuel' (c'.forward n) >>= fun made =>
                .ok (x :: made.1, made.2))) →
          Takes (fun i : Nat × Nat => i.2) (fun i => readString i.1 i.2)
            c s next := by
        intro n x hn h hstep
        obtain ⟨⟨s', mid⟩, hmid, h⟩ := Steps.bind_eq_ok.mp h
        cases h
        refine ((ih hmid).map (x :: ·)).after ?_
        rintro ⟨o, bound⟩ c' hbegins hlength hsize -
        cases bound with
        | zero => cases hsize
        | succ bound =>
            exact ⟨(o, bound), by dsimp only at hsize ⊢; omega,
              hstep o bound c' hbegins hlength⟩
      have hrun := h
      rw [readString] at h
      split at h
      · cases h
      next rest hrest =>
        cases h
        refine ⟨1, Nat.one_pos, ?_, rfl, ?_⟩
        · rw [hrest, List.length_cons]
          omega
        rintro ⟨o, bound⟩ c' hbegins hlength hsize -
        obtain ⟨rest', hrest', -⟩ :=
          exists_cons_of_isPrefix hbegins hrest hlength
        cases bound with
        | zero => cases hsize
        | succ bound => exact readString_quote hrest'
      · cases h
      next hex hrest =>
        rw [readString_unit hrest] at hrun
        split at hrun
        · cases hrun
        next high more hunit =>
        split at hrun
        · cases hrun
        next code n hpairing =>
        have hn := pairing_length hpairing
        refine hmore n _ (by omega) hrun fun o fuel' c' hbegins hlength => ?_
        obtain ⟨rest₁, hrest₁, hbegins₁⟩ :=
          exists_cons_of_isPrefix hbegins hrest (by omega)
        rw [hrest₁, List.length_cons] at hlength
        obtain ⟨hex', rfl, hbegins₂⟩ :=
          exists_cons_of_isPrefix hbegins₁ rfl (by omega)
        rw [List.length_cons] at hlength
        obtain ⟨more', hunit', hmore', hfour⟩ :=
          unit?_of_isPrefix hunit hbegins₂ (by omega)
        rw [readString_unit hrest₁, hunit']
        dsimp only
        rw [pairing_of_isPrefix hpairing hmore' (by omega)]
      next e rest he hrest =>
        split at h
        · cases h
        next x hx =>
        refine hmore 2 x Nat.two_pos h fun o fuel' c' hbegins hlength => ?_
        obtain ⟨rest₁, hrest₁, hbegins₁⟩ :=
          exists_cons_of_isPrefix hbegins hrest (by omega)
        rw [hrest₁, List.length_cons] at hlength
        obtain ⟨rest₂, rfl, -⟩ :=
          exists_cons_of_isPrefix hbegins₁ rfl (by omega)
        exact readString_escape hrest₁ he hx
      next x rest hquote hend hunit hescape hrest =>
        split at h
        · cases h
        next hx =>
        have hplain : x ≠ '\\' := by
          rintro rfl
          cases rest with
          | nil => exact hend rfl rfl
          | cons e rest => exact hescape e rest rfl rfl
        refine hmore 1 x Nat.one_pos h fun o fuel' c' hbegins hlength => ?_
        obtain ⟨rest', hrest', -⟩ :=
          exists_cons_of_isPrefix hbegins hrest (by omega)
        exact readString_plain hrest' hquote hplain hx

-- =============================================================== values

/-- A reader that reads as another one does. -/
theorem Takes.congr {g : κ → Cursor → Except Fault (α × Cursor)}
    (h : Takes few g c a next)
    (hagain : ∀ i (c' : Cursor), c'.rest <+: c.rest → 0 < c'.rest.length →
      c'.rest.length < size i → ∃ j, c'.rest.length < few j
        ∧ again i c' = g j c') :
    Takes size again c a next := by
  obtain ⟨n, hpos, hn, rfl, hg⟩ := h
  refine ⟨n, hpos, hn, rfl, fun i c' hbegins hlength hsize hlimit => ?_⟩
  obtain ⟨j, hfew, heq⟩ := hagain i c' hbegins (by omega) hsize
  rw [heq, hg j c' hbegins hlength hfew hlimit]

/-- A shorter text that is not empty has the same first character. -/
theorem Cursor.head?_eq {c' : Cursor} (h : c'.rest <+: c.rest)
    (hpos : 0 < c'.rest.length) : c'.rest.head? = c.rest.head? :=
  head?_of_isPrefix h (List.length_pos_iff.mp hpos)

/-- A place where a character stands. -/
theorem Cursor.exists_rest {x : Char} (h : c.rest.head? = some x) :
    ∃ rest, c.rest = x :: rest :=
  List.head?_eq_some_iff.mp h

/-- What a bracket opens: nothing but its closing one, or what `r` reads. -/
def inBrackets (close : Char) (empty : Value)
    (r : κ → Cursor → Except Fault (Value × Cursor)) (j : κ) (c : Cursor) :
    Except Fault (Value × Cursor) :=
  if c.rest.head? == some close then .ok (empty, c.forward 1) else r j c

/-- What stands in brackets is read by its own characters. -/
theorem takes_inBrackets {close : Char} {empty v : Value}
    {r : κ → Cursor → Except Fault (Value × Cursor)} {j : κ}
    (h : inBrackets close empty r j c = .ok (v, next))
    (hr : r j c = .ok (v, next) → Takes few r c v next) :
    Takes few (inBrackets close empty r) c v next := by
  unfold inBrackets at h
  split at h
  next hclose =>
    cases h
    obtain ⟨rest, hrest⟩ := Cursor.exists_rest (eq_of_beq hclose)
    have hone := takes_one few hrest empty
    refine hone.congr fun i c' hbegins hpos hfew => ?_
    refine ⟨i, hfew, ?_⟩
    unfold inBrackets
    rw [Cursor.head?_eq hbegins hpos, if_pos hclose]
  next hopen =>
    refine (hr h).congr fun i c' hbegins hpos hfew => ⟨i, hfew, ?_⟩
    unfold inBrackets
    rw [Cursor.head?_eq hbegins hpos, if_neg hopen]

/-- What follows an item: the closing bracket, or a comma and more that `r`
reads. -/
def moreItems (close : Char) (item : α)
    (r : κ → Cursor → Except Fault (List α × Cursor)) (j : κ) (c : Cursor) :
    Except Fault (List α × Cursor) :=
  if c.rest.head? == some close then .ok ([item], c.forward 1)
  else if c.rest.head? == some ',' then
    r j (c.forward 1).skipSpace >>= fun made =>
      .ok (item :: made.1, made.2)
  else c.refuse .comma

/-- What follows an item is read by its own characters. -/
theorem takes_moreItems {close : Char} {item : α} {items : List α}
    {r : κ → Cursor → Except Fault (List α × Cursor)} {j : κ}
    (h : moreItems close item r j c = .ok (items, next))
    (hr : ∀ {c next items}, r j c = .ok (items, next) →
      Takes few r c items next) :
    Takes (fun j => few j + 1) (moreItems close item r) c items next := by
  unfold moreItems at h
  split at h
  next hclose =>
    cases h
    obtain ⟨rest, hrest⟩ := Cursor.exists_rest (eq_of_beq hclose)
    have hone := takes_one (fun j => few j + 1) hrest [item]
    refine hone.congr fun i c' hbegins hpos hfew => ?_
    refine ⟨i, hfew, ?_⟩
    unfold moreItems
    rw [Cursor.head?_eq hbegins hpos, if_pos hclose]
  next hopen =>
  split at h
  next hcomma =>
    obtain ⟨⟨more, last⟩, hmore, h⟩ := Steps.bind_eq_ok.mp h
    cases h
    refine ((hr hmore).map (item :: ·)).space.after ?_
    intro i c' hbegins hlength hfew _
    refine ⟨i, by omega, ?_⟩
    unfold moreItems
    rw [Cursor.head?_eq hbegins (by omega), if_neg hopen, if_pos hcomma]
  · cases h

/-- The items of a list are a value and what follows it. -/
theorem readItems_eq (fuel room : Nat) (c : Cursor) :
    readItems (fuel + 1) room c =
      (readValue fuel room c >>= fun made =>
        moreItems ']' made.1 (fun f => readItems f room) fuel
          made.2.skipSpace) := by
  rw [readItems]
  refine congrArg (readValue fuel room c >>= ·) (funext fun made => ?_)
  unfold moreItems
  dsimp only
  split
  next heq =>
    rw [heq]
    rfl
  next heq =>
    rw [heq]
    rfl
  next hclose hcomma =>
    rw [if_neg fun heq => hclose (eq_of_beq heq),
      if_neg fun heq => hcomma (eq_of_beq heq)]

/-- What follows the key of an entry: a colon, a value, and what follows
that. -/
def entryBehind (room : Nat) (key : Value) (fuel : Nat) (c : Cursor) :
    Except Fault (List (Value × Value) × Cursor) :=
  if c.rest.head? == some ':' then
    readValue fuel room (c.forward 1).skipSpace >>= fun made =>
      moreItems '\x7d' (key, made.1) (fun f => readEntries f room) fuel
        made.2.skipSpace
  else c.refuse .colon

/-- The entries of a mapping are a key and what follows it. -/
theorem readEntries_eq {fuel room : Nat} {rest : List Char}
    (h : c.rest = '"' :: rest) :
    readEntries (fuel + 1) room c =
      (readString c.offset c.limit (c.forward 1) >>= fun made =>
        entryBehind room (.text (String.ofList made.1)) fuel
          made.2.skipSpace) := by
  rw [readEntries]
  split
  next heq =>
    refine congrArg (readString c.offset c.limit (c.forward 1) >>= ·)
      (funext fun made => ?_)
    unfold entryBehind
    dsimp only
    by_cases hcolon : made.2.skipSpace.rest.head? = some ':'
    · rw [hcolon]
      refine congrArg (readValue fuel room _ >>= ·) (funext fun value => ?_)
      unfold moreItems
      dsimp only
      split
      next heq =>
        rw [heq]
        rfl
      next heq =>
        rw [heq]
        rfl
      next hclose hcomma =>
        rw [if_neg fun heq => hclose (eq_of_beq heq),
          if_neg fun heq => hcomma (eq_of_beq heq)]
    · rw [if_pos (bne_iff_ne.mpr hcolon),
        if_neg fun heq => hcolon (eq_of_beq heq)]
  next hno => exact absurd h (hno rest)

/-- A quote begins a text. -/
theorem readValue_text {fuel room : Nat} {rest : List Char}
    (h : c.rest = '"' :: rest) :
    readValue (fuel + 1) room c =
      (readString c.offset c.limit (c.forward 1) >>= fun made =>
        .ok (.text (String.ofList made.1), made.2)) := by
  rw [readValue]
  split
  next => rfl
  next heq => simp [h] at heq
  next heq => simp [h] at heq
  next hno _ _ => exact absurd h (hno rest)

/-- A bracket begins a list. -/
theorem readValue_list {fuel room : Nat} {rest : List Char}
    (h : c.rest = '[' :: rest) (hroom : room ≠ 0) :
    readValue (fuel + 1) room c =
      inBrackets ']' (.list []) (fun f c' =>
        readItems f (room - 1) c' >>= fun made =>
          .ok (.list made.1, made.2)) fuel (c.forward 1).skipSpace := by
  have hsome : ¬ (room == 0) = true := fun heq => hroom (eq_of_beq heq)
  rw [readValue]
  split
  next heq => simp [h] at heq
  next =>
    rw [if_neg hsome]
    rfl
  next heq => simp [h] at heq
  next hno _ => exact absurd h (hno rest)

/-- A brace begins a mapping. -/
theorem readValue_map {fuel room : Nat} {rest : List Char}
    (h : c.rest = '\x7b' :: rest) (hroom : room ≠ 0) :
    readValue (fuel + 1) room c =
      inBrackets '\x7d' (.map []) (fun f c' =>
        readEntries f (room - 1) c' >>= fun made =>
          .ok (.ofEntries made.1, made.2)) fuel (c.forward 1).skipSpace := by
  have hsome : ¬ (room == 0) = true := fun heq => hroom (eq_of_beq heq)
  rw [readValue]
  split
  next heq => simp [h] at heq
  next heq => simp [h] at heq
  next =>
    rw [if_neg hsome]
    rfl
  next hno => exact absurd h (hno rest)

/-- A reader that has gone into a bracket had room for it. -/
theorem room_of_readValue {fuel room : Nat} {v : Value}
    (h : readValue fuel room c = .ok (v, next))
    (hopen : c.rest.head? = some '[' ∨ c.rest.head? = some '\x7b') :
    room ≠ 0 := by
  rintro rfl
  cases fuel with
  | zero => cases h
  | succ fuel =>
      rcases hopen with hopen | hopen
      · obtain ⟨rest, hrest⟩ := Cursor.exists_rest hopen
        rw [readValue, hrest] at h
        cases h
      · obtain ⟨rest, hrest⟩ := Cursor.exists_rest hopen
        rw [readValue, hrest] at h
        cases h

/-- Entries begin with a quote. -/
theorem exists_quote_of_readEntries {fuel room : Nat}
    {entries : List (Value × Value)}
    (h : readEntries (fuel + 1) room c = .ok (entries, next)) :
    ∃ rest, c.rest = '"' :: rest := by
  rw [readEntries] at h
  split at h
  next rest hrest => exact ⟨rest, hrest⟩
  · cases h

/-- Nothing else begins anything but a word or a number. -/
theorem readValue_scalar {fuel room : Nat} (htext : c.rest.head? ≠ some '"')
    (hlist : c.rest.head? ≠ some '[') (hmap : c.rest.head? ≠ some '\x7b') :
    readValue (fuel + 1) room c = readScalar c := by
  rw [readValue]
  split
  next heq => exact absurd (heq ▸ rfl) htext
  next heq => exact absurd (heq ▸ rfl) hlist
  next heq => exact absurd (heq ▸ rfl) hmap
  next => rfl

/-- What follows a key is read by its own characters, if values and entries
are. -/
theorem takes_entryBehind {fuel room : Nat} {key : Value}
    {entries : List (Value × Value)}
    (hvalue : ∀ {c next : Cursor} {v : Value},
      readValue fuel room c = .ok (v, next) →
      Takes (fun f => (f + 1) / 2) (fun f => readValue f room) c v next)
    (hentries : ∀ {c next : Cursor} {entries : List (Value × Value)},
      readEntries fuel room c = .ok (entries, next) →
      Takes (fun f => f / 2) (fun f => readEntries f room) c entries next)
    (h : entryBehind room key fuel c = .ok (entries, next)) :
    Takes (fun f => (f + 1) / 2) (entryBehind room key) c entries next := by
  unfold entryBehind at h
  split at h
  next hcolon =>
    obtain ⟨⟨v, mid⟩, hv, h⟩ := Steps.bind_eq_ok.mp h
    have hmore := (takes_moreItems h hentries).space
    have hboth : Takes (fun f => (f + 1) / 2)
        (fun f c' => readValue f room c' >>= fun made =>
          moreItems '\x7d' (key, made.1) (fun f => readEntries f room) f
            made.2.skipSpace)
        (c.forward 1).skipSpace entries next := by
      refine (hvalue hv).bind (g := fun f made => moreItems '\x7d'
        (key, made.1) (fun f => readEntries f room) f made.2.skipSpace)
        hmore fun f c' _ hpos hsize _ => ?_
      exact ⟨f, f, hsize, by omega, rfl⟩
    refine hboth.space.after fun f c' hbegins hlength hsize _ => ?_
    refine ⟨f, by omega, ?_⟩
    unfold entryBehind
    rw [Cursor.head?_eq hbegins (by omega), if_pos hcolon]
  · cases h

/-- Values, items and entries are read by their own characters. How far a
reader can go grows by one character with every second step that it may
make. -/
theorem takes_readValue (fuel : Nat) :
    (∀ {room : Nat} {c next : Cursor} {v : Value},
        readValue fuel room c = .ok (v, next) →
        Takes (fun f => (f + 1) / 2) (fun f => readValue f room) c v next)
      ∧ (∀ {room : Nat} {c next : Cursor} {items : List Value},
        readItems fuel room c = .ok (items, next) →
        Takes (fun f => f / 2) (fun f => readItems f room) c items next)
      ∧ ∀ {room : Nat} {c next : Cursor} {entries : List (Value × Value)},
        readEntries fuel room c = .ok (entries, next) →
        Takes (fun f => f / 2) (fun f => readEntries f room) c entries
          next := by
  induction fuel with
  | zero =>
      refine ⟨?_, ?_, ?_⟩ <;> (intro room c next made h; cases h)
  | succ fuel ih =>
      obtain ⟨hvalue, hitems, hentries⟩ := ih
      refine ⟨?_, ?_, ?_⟩
      · intro room c next v h
        by_cases htext : c.rest.head? = some '"'
        · obtain ⟨rest, hrest⟩ := Cursor.exists_rest htext
          rw [readValue_text hrest] at h
          obtain ⟨⟨s, mid⟩, hs, h⟩ := Steps.bind_eq_ok.mp h
          cases h
          refine ((takes_readString _ hs).map
            fun s => Value.text (String.ofList s)).after ?_
          intro f c' hbegins hlength hsize hlimit
          obtain ⟨rest', hrest', -⟩ :=
            exists_cons_of_isPrefix hbegins hrest (by omega)
          cases f with
          | zero => omega
          | succ f =>
              exact ⟨(c'.offset, c'.limit), by dsimp only; omega,
                readValue_text hrest'⟩
        by_cases hlist : c.rest.head? = some '['
        · obtain ⟨rest, hrest⟩ := Cursor.exists_rest hlist
          have hroom := room_of_readValue h (Or.inl hlist)
          rw [readValue_list hrest hroom] at h
          have hinside : Takes (fun f => f / 2)
              (inBrackets ']' (.list []) fun f c' =>
                readItems f (room - 1) c' >>= fun made =>
                  .ok (.list made.1, made.2))
              (c.forward 1).skipSpace v next := by
            refine takes_inBrackets h fun h => ?_
            obtain ⟨⟨items, last⟩, hread, h⟩ := Steps.bind_eq_ok.mp h
            cases h
            exact (hitems hread).map Value.list
          refine hinside.space.after fun f c' hbegins hlength hsize _ => ?_
          obtain ⟨rest', hrest', -⟩ :=
            exists_cons_of_isPrefix hbegins hrest (by omega)
          cases f with
          | zero => omega
          | succ f => exact ⟨f, by omega, readValue_list hrest' hroom⟩
        by_cases hmap : c.rest.head? = some '\x7b'
        · obtain ⟨rest, hrest⟩ := Cursor.exists_rest hmap
          have hroom := room_of_readValue h (Or.inr hmap)
          rw [readValue_map hrest hroom] at h
          have hinside : Takes (fun f => f / 2)
              (inBrackets '\x7d' (.map []) fun f c' =>
                readEntries f (room - 1) c' >>= fun made =>
                  .ok (.ofEntries made.1, made.2))
              (c.forward 1).skipSpace v next := by
            refine takes_inBrackets h fun h => ?_
            obtain ⟨⟨entries, last⟩, hread, h⟩ := Steps.bind_eq_ok.mp h
            cases h
            exact (hentries hread).map Value.ofEntries
          refine hinside.space.after fun f c' hbegins hlength hsize _ => ?_
          obtain ⟨rest', hrest', -⟩ :=
            exists_cons_of_isPrefix hbegins hrest (by omega)
          cases f with
          | zero => omega
          | succ f => exact ⟨f, by omega, readValue_map hrest' hroom⟩
        rw [readValue_scalar htext hlist hmap] at h
        have hscalar : Takes (fun f => (f + 1) / 2) (fun _ => readScalar)
            c v next := takes_readScalar h
        refine hscalar.congr fun f c' hbegins hpos hsize => ?_
        have hhead := Cursor.head?_eq hbegins hpos
        cases f with
        | zero => omega
        | succ f =>
            refine ⟨f + 1, hsize, readValue_scalar ?_ ?_ ?_⟩
            · rwa [hhead]
            · rwa [hhead]
            · rwa [hhead]
      · intro room c next items h
        rw [readItems_eq] at h
        obtain ⟨⟨v, mid⟩, hv, h⟩ := Steps.bind_eq_ok.mp h
        refine (hvalue hv).bind (g := fun f made => moreItems ']' made.1
          (fun f => readItems f room) f made.2.skipSpace)
          (takes_moreItems h hitems).space ?_
        intro f c' _ hpos hsize _
        cases f with
        | zero => omega
        | succ f => exact ⟨f, f, hsize, by omega, readItems_eq f room c'⟩
      · intro room c next entries h
        obtain ⟨rest, hrest⟩ := exists_quote_of_readEntries h
        rw [readEntries_eq hrest] at h
        obtain ⟨⟨s, mid⟩, hs, h⟩ := Steps.bind_eq_ok.mp h
        have hbehind := takes_entryBehind hvalue hentries h
        have hboth : Takes
            (fun i : (Nat × Nat) × Nat => min i.1.2 ((i.2 + 1) / 2))
            (fun i c' => readString i.1.1 i.1.2 c' >>= fun made =>
              entryBehind room (.text (String.ofList made.1)) i.2
                made.2.skipSpace)
            (c.forward 1) entries next := by
          refine (takes_readString _ hs).bind (g := fun f made =>
            entryBehind room (.text (String.ofList made.1)) f
              made.2.skipSpace) hbehind.space fun i c' _ hpos hsize _ => ?_
          exact ⟨i.1, i.2, by omega, by omega, rfl⟩
        refine hboth.after fun f c' hbegins hlength hsize hlimit => ?_
        obtain ⟨rest', hrest', -⟩ :=
          exists_cons_of_isPrefix hbegins hrest (by omega)
        cases f with
        | zero => omega
        | succ f =>
            exact ⟨((c'.offset, c'.limit), f), by dsimp only; omega,
              readEntries_eq hrest'⟩

-- ============================================================== objects

/-- What follows an item ends with the closing bracket. -/
theorem suffix_of_moreItems {close : Char} {item : α} {items : List α}
    {r : κ → Cursor → Except Fault (List α × Cursor)} {j : κ}
    (h : moreItems close item r j c = .ok (items, next))
    (hr : ∀ {c next items}, r j c = .ok (items, next) →
      close :: next.rest <:+ c.rest) :
    close :: next.rest <:+ c.rest := by
  unfold moreItems at h
  split at h
  next hclose =>
    cases h
    obtain ⟨rest, hrest⟩ := Cursor.exists_rest (eq_of_beq hclose)
    rw [Cursor.forward, hrest]
    exact List.suffix_refl _
  · split at h
    · obtain ⟨⟨more, last⟩, hmore, h⟩ := Steps.bind_eq_ok.mp h
      cases h
      exact (hr hmore).trans (c.forward_skipSpace_suffix 1)
    · cases h

/-- The entries of a mapping end with its closing brace. -/
theorem suffix_of_readEntries (fuel : Nat) :
    ∀ {room : Nat} {c next : Cursor} {entries : List (Value × Value)},
      readEntries fuel room c = .ok (entries, next) →
      '\x7d' :: next.rest <:+ c.rest := by
  induction fuel with
  | zero => intro room c next entries h; cases h
  | succ fuel ih =>
      intro room c next entries h
      obtain ⟨rest, hrest⟩ := exists_quote_of_readEntries h
      rw [readEntries_eq hrest] at h
      obtain ⟨⟨s, mid⟩, hs, h⟩ := Steps.bind_eq_ok.mp h
      have hkey : Accounts room (c.forward 1).rest (.ok (s, mid)) :=
        hs ▸ accounts_readString _ _ _
      unfold entryBehind at h
      split at h
      · obtain ⟨⟨v, last⟩, hv, h⟩ := Steps.bind_eq_ok.mp h
        have hvalue : Accounts room _ (.ok (v, last)) :=
          hv ▸ (accounts_readValue fuel).1 room _
        have hmore := suffix_of_moreItems h fun h => ih h
        calc '\x7d' :: next.rest
          _ <:+ last.rest := hmore.trans last.skipSpace_suffix
          _ <:+ (mid.skipSpace.forward 1).skipSpace.rest := hvalue
          _ <:+ mid.skipSpace.rest := mid.skipSpace.forward_skipSpace_suffix 1
          _ <:+ mid.rest := mid.skipSpace_suffix
          _ <:+ (c.forward 1).rest := hkey
          _ <:+ c.rest := c.forward_suffix 1
      · cases h

/-- A word or a number is no mapping. -/
theorem readScalar_ne_map {entries : List (Value × Value)} :
    readScalar c ≠ .ok (.map entries, next) := by
  intro h
  unfold readScalar at h
  split at h
  next w v hfind =>
    have hmem := List.mem_of_find?_eq_some hfind
    cases h
    simp [words] at hmem
  · rw [readNumber_eq] at h
    split at h
    · cases h
    split at h
    · split at h <;> cases h
    · split at h <;> cases h

/-- What is read as a mapping opens with a brace and ends with one. -/
theorem braces_of_readValue {fuel room : Nat} {entries : List (Value × Value)}
    (h : readValue fuel room c = .ok (.map entries, next)) :
    ∃ inner, c.rest = '\x7b' :: inner ++ '\x7d' :: next.rest := by
  cases fuel with
  | zero => cases h
  | succ fuel =>
  by_cases htext : c.rest.head? = some '"'
  · obtain ⟨rest, hrest⟩ := Cursor.exists_rest htext
    rw [readValue_text hrest] at h
    obtain ⟨_, -, h⟩ := Steps.bind_eq_ok.mp h
    cases h
  by_cases hlist : c.rest.head? = some '['
  · obtain ⟨rest, hrest⟩ := Cursor.exists_rest hlist
    have hroom := room_of_readValue h (Or.inl hlist)
    rw [readValue_list hrest hroom] at h
    unfold inBrackets at h
    split at h
    · cases h
    · obtain ⟨_, -, h⟩ := Steps.bind_eq_ok.mp h
      cases h
  by_cases hmap : c.rest.head? = some '\x7b'
  · obtain ⟨rest, hrest⟩ := Cursor.exists_rest hmap
    have hroom := room_of_readValue h (Or.inr hmap)
    have hbehind : (c.forward 1).rest = rest := by
      rw [Cursor.forward, hrest, List.drop_succ_cons, List.drop_zero]
    rw [readValue_map hrest hroom] at h
    have hends : '\x7d' :: next.rest <:+ (c.forward 1).skipSpace.rest := by
      unfold inBrackets at h
      split at h
      next hclose =>
        cases h
        obtain ⟨more, hmore⟩ := Cursor.exists_rest (eq_of_beq hclose)
        rw [Cursor.forward, hmore]
        exact List.suffix_refl _
      · obtain ⟨⟨made, last⟩, hread, h⟩ := Steps.bind_eq_ok.mp h
        cases h
        exact suffix_of_readEntries fuel hread
    obtain ⟨inner, hinner⟩ :=
      hends.trans (c.forward 1).skipSpace_suffix
    refine ⟨inner, ?_⟩
    rw [hrest, ← hbehind, ← hinner]
    rfl
  · rw [readValue_scalar htext hlist hmap] at h
    exact absurd h readScalar_ne_map

/-- Skipping space drops the space in front. -/
theorem Cursor.rest_skipSpace (c : Cursor) :
    c.skipSpace.rest = c.rest.dropWhile isSpace :=
  drop_length_takeWhile isSpace c.rest

/-- A text that opens with a brace and is a value to its end is read as that
value. -/
theorem read_of_readValue {rest : List Char} {v : Value}
    (h : readValue (2 * ('\x7b' :: rest).length + 2) depthLimit
      (Cursor.start ('\x7b' :: rest)) = .ok (v, next))
    (hend : next.rest = []) : read ('\x7b' :: rest) = .ok v := by
  have hskip : (Cursor.start ('\x7b' :: rest)).skipSpace
      = Cursor.start ('\x7b' :: rest) :=
    rfl
  have hempty : next.skipSpace.rest.isEmpty = true := by
    rw [Cursor.rest_skipSpace, hend]
    rfl
  have hmark : ¬ (('\x7b' :: rest).head? == some '\ufeff') = true := by
    simp
  unfold read
  rw [if_neg hmark, hskip, h]
  exact if_pos hempty

/-- What is read as an object is, but for the space around it, a text in
braces, and that is read as the same object. -/
theorem exists_object_of_read {t : List Char}
    {entries : List (Value × Value)} (h : read t = .ok (.map entries)) :
    ∃ before inner behind,
      t = before ++ ('\x7b' :: inner ++ ['\x7d']) ++ behind
        ∧ (∀ x ∈ before, isSpace x = true)
        ∧ (∀ x ∈ behind, isSpace x = true)
        ∧ read ('\x7b' :: inner ++ ['\x7d']) = .ok (.map entries) := by
  unfold read at h
  split at h
  · cases h
  obtain ⟨⟨v, next⟩, hv, h⟩ := Steps.bind_eq_ok.mp h
  dsimp only at h
  split at h
  case isFalse => cases h
  case isTrue hend =>
    cases h
    have hafter : next.rest.dropWhile isSpace = [] := by
      rw [← next.rest_skipSpace]
      exact List.isEmpty_iff.mp hend
    obtain ⟨inner, hinner⟩ := braces_of_readValue hv
    have hrest : (Cursor.start t).skipSpace.rest
        = ('\x7b' :: inner ++ ['\x7d']) ++ next.rest := by
      rw [hinner]
      simp only [List.append_assoc, List.cons_append, List.nil_append]
    have hbody : t.dropWhile isSpace
        = ('\x7b' :: inner ++ ['\x7d']) ++ next.rest :=
      (Cursor.start t).rest_skipSpace.symm.trans hrest
    refine ⟨t.takeWhile isSpace, inner, next.rest, ?_,
      fun x => List.mem_takeWhile_imp, List.dropWhile_eq_nil_iff.mp hafter, ?_⟩
    · rw [List.append_assoc, ← hbody, List.takeWhile_append_dropWhile]
    obtain ⟨n, -, hn, hnext, hagain⟩ := (takes_readValue _).1 hv
    generalize hcore : inner ++ ['\x7d'] = core at hrest
    rw [List.cons_append, hcore] at hrest ⊢
    -- what was taken are the characters from brace to brace
    have hlength : n = ('\x7b' :: core).length := by
      have hleft : next.rest.length = _ - n :=
        hnext ▸ Cursor.length_forward _ n
      rw [hrest, List.length_append] at hn hleft
      omega
    refine read_of_readValue (hagain _ (Cursor.start ('\x7b' :: core))
      (hrest ▸ List.prefix_append _ next.rest) (Nat.le_of_eq hlength) ?_
      (Nat.lt_succ_self _)) ?_
    · change ('\x7b' :: core).length < (2 * ('\x7b' :: core).length + 2 + 1) / 2
      omega
    · rw [hlength]
      exact List.drop_length

end Toolsmith.Json
