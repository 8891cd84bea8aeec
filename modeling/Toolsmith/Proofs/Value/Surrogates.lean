/-
Where lone surrogates can come from. A program text escapes them and
everything else that is written is made of marks, words and digits, so the
only value that shows one in running text is a text that holds it.
-/
import Mathlib.Data.List.TakeWhile
import Toolsmith.Proofs.Naming
import Toolsmith.Value.Literal

namespace Toolsmith

namespace Text

-- ============================================================ characters

/-- The text holds no lone surrogate. -/
def LoneFree (s : List Char) : Prop := ∀ c ∈ s, isLone c = false

/-- Characters below the place of the surrogates are none. -/
theorem isLone_of_lt {c : Char} (h : c.toNat < 0x10d800) :
    isLone c = false := by
  simp only [isLone, isSurrogate, Bool.and_eq_false_iff,
    decide_eq_false_iff_not]
  omega

/-- Lone surrogates are not printable. -/
theorem isPrintable_of_isLone {c : Char} (h : isLone c = true) :
    isPrintable c = false := by
  simp only [isLone, isSurrogate, Bool.and_eq_true, decide_eq_true_eq] at h
  have hlast : ((0xe01f0, 0x10ffff) : Nat × Nat) ∈ unprintableRanges := by
    decide +kernel
  have hin : inRanges unprintableRanges c.toNat = true := by
    refine List.any_eq_true.mpr ⟨_, hlast, ?_⟩
    simp only [Bool.and_eq_true, decide_eq_true_eq]
    omega
  simp only [isPrintable, hin]
  simp
  omega

/-- A visible character of ASCII, or a blank. -/
def isVisible (c : Char) : Bool := 0x20 ≤ c.toNat && c.toNat < 0x7f

/-- The text is made of visible characters of ASCII and blanks. -/
def Visible (s : List Char) : Prop := ∀ c ∈ s, isVisible c = true

-- Named, since characters are finitely many and trying them all also decides.
instance (s : List Char) : Decidable (Visible s) :=
  List.decidableBAll (fun c => isVisible c = true) s

/-- What may stand in a name is visible. -/
theorem isVisible_of_isNameChar {c : Char} (h : isNameChar c = true) :
    isVisible c = true := by
  have hletter : 'a'.toNat = 97 ∧ 'z'.toNat = 122 ∧ 'A'.toNat = 65
      ∧ 'Z'.toNat = 90 ∧ '0'.toNat = 48 ∧ '9'.toNat = 57 := by decide
  simp only [isNameChar, isAsciiLetter, isAsciiDigit, Bool.or_eq_true,
    Bool.and_eq_true, decide_eq_true_eq, beq_iff_eq] at h
  have hle : ∀ {a b : Char}, a ≤ b → a.toNat ≤ b.toNat := fun h => h
  simp only [isVisible, Bool.and_eq_true, decide_eq_true_eq]
  rcases h with (((⟨hl, hr⟩ | ⟨hl, hr⟩) | ⟨hl, hr⟩) | h)
  · have := hle hl; have := hle hr; omega
  · have := hle hl; have := hle hr; omega
  · have := hle hl; have := hle hr; omega
  · rw [h]
    decide

/-- Visible texts hold no lone surrogates. -/
theorem Visible.loneFree {s : List Char} (h : Visible s) : LoneFree s := by
  intro c hc
  have hvisible := h c hc
  simp only [isVisible, Bool.and_eq_true, decide_eq_true_eq] at hvisible
  exact isLone_of_lt (by omega)

-- ================================================================= texts

-- Named, since characters are finitely many and trying them all also decides.
instance (s : List Char) : Decidable (LoneFree s) :=
  List.decidableBAll (fun c => isLone c = false) s

/-- What is left behind the longest run of a class. -/
theorem drop_length_takeWhile {α : Type} (p : α → Bool) (s : List α) :
    s.drop (s.takeWhile p).length = s.dropWhile p := by
  calc s.drop (s.takeWhile p).length
      = (s.takeWhile p ++ s.dropWhile p).drop (s.takeWhile p).length := by
        rw [List.takeWhile_append_dropWhile]
    _ = s.dropWhile p := List.drop_left

/-- A text has a run of lone surrogates unless it is free of them. -/
theorem find?_eq_none_iff {s : List Char} :
    Lone.find? s = none ↔ LoneFree s := by
  have hfind : Lone.find? s = none ↔ s.dropWhile (!isLone ·) = [] := by
    unfold Lone.find?
    dsimp only
    rw [drop_length_takeWhile]
    cases s.dropWhile (!isLone ·) with
    | nil => exact ⟨fun _ => rfl, fun _ => rfl⟩
    | cons c rest => exact ⟨fun h => (by cases h), fun h => (by cases h)⟩
  rw [hfind, List.dropWhile_eq_nil_iff]
  exact forall₂_congr fun c _ => by rw [Bool.not_eq_true']

@[simp]
theorem loneFree_nil : LoneFree [] := by
  intro c hc
  cases hc

@[simp]
theorem loneFree_cons {c : Char} {s : List Char} :
    LoneFree (c :: s) ↔ isLone c = false ∧ LoneFree s :=
  List.forall_mem_cons

@[simp]
theorem loneFree_append {s t : List Char} :
    LoneFree (s ++ t) ↔ LoneFree s ∧ LoneFree t :=
  List.forall_mem_append

/-- What holds of every character of some parts and of what goes between
them holds of every character of the whole. -/
theorem forall_mem_join {p : Char → Prop} {between : List Char}
    {parts : List (List Char)} (hbetween : ∀ c ∈ between, p c)
    (h : ∀ part ∈ parts, ∀ c ∈ part, p c) :
    ∀ c ∈ join between parts, p c := by
  induction parts with
  | nil =>
      intro c hc
      cases hc
  | cons part rest ih =>
      obtain ⟨hpart, hrest⟩ := List.forall_mem_cons.mp h
      cases rest with
      | nil => exact hpart
      | cons next more =>
          rw [join]
          · exact List.forall_mem_append.mpr
              ⟨List.forall_mem_append.mpr ⟨hpart, hbetween⟩, ih hrest⟩
          · intro hnil
            cases hnil

/-- Texts with commas between them show no lone surrogates if none of them
does. -/
theorem loneFree_commas {parts : List (List Char)}
    (h : ∀ part ∈ parts, LoneFree part) :
    LoneFree (join ", ".toList parts) := by
  have hcomma : LoneFree ", ".toList := by decide
  exact forall_mem_join hcomma h

@[simp]
theorem visible_nil : Visible [] := by
  intro c hc
  cases hc

@[simp]
theorem visible_cons {c : Char} {s : List Char} :
    Visible (c :: s) ↔ isVisible c = true ∧ Visible s :=
  List.forall_mem_cons

@[simp]
theorem visible_append {s t : List Char} :
    Visible (s ++ t) ↔ Visible s ∧ Visible t :=
  List.forall_mem_append

/-- A part of a visible text is visible. -/
theorem Visible.of_subset {s t : List Char} (h : Visible t)
    (hsubset : s ⊆ t) : Visible s :=
  fun c hc => h c (hsubset hc)

-- ================================================================ digits

/-- Decimal digits are visible. -/
@[simp]
theorem visible_decimalText (n : Nat) : Visible (decimalText n) :=
  fun c hc => isVisible_of_isNameChar
    (List.all_eq_true.mp (Naming.all_decimalText n) c hc)

@[simp]
theorem visible_paddedText (width n : Nat) :
    Visible (paddedText width n) := by
  refine visible_append.mpr ⟨fun c hc => ?_, visible_decimalText n⟩
  rw [(List.mem_replicate.mp hc).2]
  decide

@[simp]
theorem visible_integerText (n : Int) : Visible (integerText n) := by
  unfold integerText
  split
  · exact visible_cons.mpr ⟨by decide, visible_decimalText _⟩
  · exact visible_decimalText _

/-- Hexadecimal digits are visible. -/
theorem visible_hexText (width n : Nat) : Visible (hexText width n) := by
  have hdigit : ∀ k < 16, isVisible (hexDigit k) = true := by decide
  induction width generalizing n with
  | zero => exact visible_nil
  | succ width ih =>
      rw [hexText]
      exact visible_append.mpr ⟨ih _, visible_cons.mpr
        ⟨hdigit _ (Nat.mod_lt _ (by decide)), visible_nil⟩⟩

/-- Doubles are written in visible characters. -/
theorem visible_finiteText (layout : Number.Layout) (negative : Bool)
    (mantissa : Nat) (exponent : Int) :
    Visible (Number.finiteText layout negative mantissa exponent) := by
  have hsign : Visible (if negative then ['-'] else []) := by
    cases negative <;> decide
  have hzeros : ∀ n, Visible (List.replicate n '0') := by
    intro n c hc
    rw [(List.mem_replicate.mp hc).2]
    decide
  have hpoint : ∀ (whole : Int) {digits : List Char}, Visible digits →
      Visible (Number.withPoint whole digits) := by
    intro whole digits h
    have htake := h.of_subset (List.take_subset whole.natAbs digits)
    have hdrop := h.of_subset (List.drop_subset whole.natAbs digits)
    unfold Number.withPoint
    split
    · exact visible_append.mpr
        ⟨visible_append.mpr ⟨by decide, hzeros _⟩, h⟩
    · split
      · exact visible_append.mpr
          ⟨visible_append.mpr ⟨h, hzeros _⟩, by decide⟩
      · exact visible_append.mpr
          ⟨htake, visible_cons.mpr ⟨by decide, hdrop⟩⟩
  have hpower : ∀ (power : Int) {digits : List Char}, Visible digits →
      Visible (Number.withPower layout power digits) := by
    intro power digits h
    cases digits with
    | nil => exact visible_nil
    | cons first more =>
        obtain ⟨hfirst, hmore⟩ := visible_cons.mp h
        have hmark : Visible ['e', if power < 0 then '-' else '+'] := by
          split <;> decide
        have htail : Visible (if more.isEmpty then [] else '.' :: more) := by
          split
          · exact visible_nil
          · exact visible_cons.mpr ⟨by decide, hmore⟩
        simp only [Number.withPower, List.cons_append, visible_cons,
          visible_append, visible_paddedText, and_true]
        exact ⟨hfirst, htail, visible_cons.mp hmark |>.imp_right fun h =>
          (visible_cons.mp h)⟩
  unfold Number.finiteText
  dsimp only
  split
  · exact visible_append.mpr ⟨hsign, by decide⟩
  · refine visible_append.mpr ⟨hsign, ?_⟩
    split
    · exact hpoint _ (visible_decimalText _)
    · exact hpower _ (visible_decimalText _)

-- ============================================================== literals

/-- Either quote is no surrogate. -/
theorem isLone_quoteFor (s : List Char) : isLone (quoteFor s) = false := by
  unfold quoteFor
  split <;> decide

/-- An escape is no surrogate, whatever it stands for. -/
theorem loneFree_codeEscape (n : Nat) : LoneFree (codeEscape n) := by
  unfold codeEscape
  split
  · simp only [loneFree_cons]
    exact ⟨by decide, by decide, (visible_hexText 2 n).loneFree⟩
  · split
    · simp only [loneFree_cons]
      exact ⟨by decide, by decide, (visible_hexText 4 n).loneFree⟩
    · simp only [loneFree_cons]
      exact ⟨by decide, by decide, (visible_hexText 8 n).loneFree⟩

/-- A character inside a literal is escaped if it is a lone surrogate. -/
theorem loneFree_literalChar {quote : Char} (hquote : isLone quote = false)
    (c : Char) : LoneFree (literalChar quote c) := by
  unfold literalChar
  split
  next h =>
    refine loneFree_cons.mpr ⟨by decide, loneFree_cons.mpr ⟨?_, loneFree_nil⟩⟩
    rcases Bool.or_eq_true_iff.mp h with h | h
    · rw [eq_of_beq h]
      exact hquote
    · rw [eq_of_beq h]
      decide
  split
  · decide
  split
  · decide
  split
  · decide
  split
  next hprintable =>
    refine loneFree_cons.mpr ⟨?_, loneFree_nil⟩
    cases hc : isLone c with
    | true =>
        rw [isPrintable_of_isLone hc] at hprintable
        cases hprintable
    | false => rfl
  · exact loneFree_codeEscape _

/-- A quoted literal escapes the lone surrogates of its text. -/
theorem loneFree_literalText (s : List Char) : LoneFree (literalText s) := by
  have hquote := isLone_quoteFor s
  refine loneFree_append.mpr ⟨loneFree_cons.mpr ⟨hquote, ?_⟩,
    loneFree_cons.mpr ⟨hquote, loneFree_nil⟩⟩
  intro c hc
  obtain ⟨x, _, hc⟩ := List.mem_flatMap.mp hc
  exact loneFree_literalChar hquote x c hc

theorem loneFree_literalBytes (octets : List UInt8) :
    LoneFree (literalBytes octets) := by
  have hquote := isLone_quoteFor (octets.map fun o => Char.ofNat o.toNat)
  refine loneFree_cons.mpr ⟨by decide, loneFree_append.mpr
    ⟨loneFree_cons.mpr ⟨hquote, ?_⟩,
      loneFree_cons.mpr ⟨hquote, loneFree_nil⟩⟩⟩
  intro c hc
  obtain ⟨x, _, hc⟩ := List.mem_flatMap.mp hc
  split at hc
  · exact loneFree_codeEscape _ c hc
  · exact loneFree_literalChar hquote x c hc

end Text

-- ================================================================ values

open Text

theorem Binary64.loneFree_text (x : Binary64) : LoneFree x.text := by
  cases x with
  | nan => decide
  | infinity negative => cases negative <;> decide
  | finite negative mantissa exponent =>
      exact (visible_finiteText Number.Layout.plain negative mantissa
        exponent).loneFree

/-- A call with arguments that are free of lone surrogates is. -/
theorem loneFree_callText {name : String} {parts : List (List Char)}
    (hname : LoneFree name.toList) (h : ∀ part ∈ parts, LoneFree part) :
    LoneFree (callText name parts) := by
  refine loneFree_append.mpr ⟨loneFree_append.mpr ⟨hname, ?_⟩, by decide⟩
  exact loneFree_cons.mpr ⟨by decide, loneFree_commas h⟩

theorem loneFree_spanLiteral (seconds : Int) :
    LoneFree (spanLiteral seconds) := by
  have hpart : ∀ (name : String) (n : Int), LoneFree name.toList →
      ∀ part ∈ (if n == 0 then [] else [name.toList ++ integerText n]),
        LoneFree part := by
    intro name n hname part hmem
    split at hmem
    · cases hmem
    · rw [List.mem_singleton.mp hmem]
      exact loneFree_append.mpr ⟨hname, (visible_integerText n).loneFree⟩
  have hparts := List.forall_mem_append.mpr
    ⟨hpart "days=" (seconds.fdiv 86400) (by decide),
      hpart "seconds=" (seconds.fmod 86400) (by decide)⟩
  unfold spanLiteral
  dsimp only
  generalize (if seconds.fdiv 86400 == 0 then [] else _) ++ _ = parts at *
  refine loneFree_callText (by decide) ?_
  split
  · exact List.forall_mem_singleton.mpr (by decide)
  · exact hparts

theorem loneFree_zoneLiteral (offset : Int) :
    LoneFree (zoneLiteral offset) := by
  unfold zoneLiteral
  split
  · decide
  · exact loneFree_callText (by decide)
      (List.forall_mem_singleton.mpr (loneFree_spanLiteral offset))

theorem loneFree_zoneIso (offset : Int) : LoneFree (zoneIso offset) := by
  have hsign : isLone (if offset < 0 then '-' else '+') = false := by
    split <;> decide
  have hpadded : ∀ n, LoneFree (':' :: paddedText 2 n) := fun n =>
    loneFree_cons.mpr ⟨by decide, (visible_paddedText 2 n).loneFree⟩
  refine loneFree_cons.mpr ⟨hsign, loneFree_append.mpr
    ⟨loneFree_append.mpr ⟨(visible_paddedText _ _).loneFree, hpadded _⟩, ?_⟩⟩
  split
  · exact loneFree_nil
  · exact hpadded _

theorem Moment.loneFree_literal (t : Moment) : LoneFree t.literal := by
  unfold Moment.literal
  dsimp only
  refine loneFree_callText (by decide) ?_
  intro part hpart
  rcases List.mem_append.mp hpart with hpart | hpart
  · obtain ⟨n, _, rfl⟩ := List.mem_map.mp hpart
    exact (visible_decimalText n).loneFree
  · split at hpart
    · cases hpart
    · rw [List.mem_singleton.mp hpart]
      exact loneFree_append.mpr ⟨by decide, loneFree_zoneLiteral _⟩

theorem Date.loneFree_literal (d : Date) : LoneFree d.literal := by
  refine loneFree_callText (by decide) ?_
  intro part hpart
  obtain ⟨n, _, rfl⟩ := List.mem_map.mp hpart
  exact (visible_decimalText n).loneFree

theorem Date.loneFree_iso (d : Date) : LoneFree d.iso := by
  have hpadded : ∀ n, LoneFree ('-' :: paddedText 2 n) := fun n =>
    loneFree_cons.mpr ⟨by decide, (visible_paddedText 2 n).loneFree⟩
  exact loneFree_append.mpr
    ⟨loneFree_append.mpr ⟨(visible_paddedText _ _).loneFree, hpadded _⟩,
      hpadded _⟩

theorem Moment.loneFree_iso (t : Moment) : LoneFree (t.iso ' ') := by
  have hpadded : ∀ {c : Char} (width n : Nat), isLone c = false →
      LoneFree (c :: paddedText width n) := fun width n hc =>
    loneFree_cons.mpr ⟨hc, (visible_paddedText width n).loneFree⟩
  refine loneFree_append.mpr ⟨?_, ?_⟩
  · refine loneFree_append.mpr ⟨?_, ?_⟩
    · exact loneFree_append.mpr ⟨loneFree_append.mpr
        ⟨loneFree_append.mpr ⟨t.date.loneFree_iso, hpadded _ _ (by decide)⟩,
          hpadded _ _ (by decide)⟩, hpadded _ _ (by decide)⟩
    · split
      · exact loneFree_nil
      · exact hpadded _ _ (by decide)
  · cases t.offset with
    | none => exact loneFree_nil
    | some o => exact loneFree_zoneIso o

namespace Value

mutual

/-- A value as program text shows no lone surrogates. -/
theorem loneFree_literal (v : Value) : LoneFree v.literal := by
  cases v with
  | null => decide
  | bool b => cases b <;> decide
  | int n => exact (visible_integerText n).loneFree
  | float x => exact x.loneFree_text
  | text s => exact loneFree_literalText s.toList
  | bytes octets => exact loneFree_literalBytes octets
  | date d => exact d.loneFree_literal
  | moment t => exact t.loneFree_literal
  | pair a b =>
      exact loneFree_append.mpr ⟨loneFree_append.mpr ⟨loneFree_append.mpr
        ⟨loneFree_cons.mpr ⟨by decide, loneFree_literal a⟩, by decide⟩,
          loneFree_literal b⟩, by decide⟩
  | list items =>
      exact loneFree_append.mpr ⟨loneFree_cons.mpr ⟨by decide,
        loneFree_commas (loneFree_literals items)⟩, by decide⟩
  | map entries =>
      exact loneFree_append.mpr ⟨loneFree_cons.mpr ⟨by decide,
        loneFree_commas (loneFree_entryLiterals entries)⟩,
          by decide⟩
  | set items =>
      rw [literal]
      split
      · decide
      · exact loneFree_append.mpr ⟨loneFree_cons.mpr ⟨by decide,
          loneFree_commas (loneFree_literals items)⟩, by decide⟩
  | loop number mapping =>
      rw [literal]
      split <;> decide

/-- The literals of a list show none. -/
theorem loneFree_literals (items : List Value) :
    ∀ part ∈ literals items, LoneFree part := by
  cases items with
  | nil =>
      intro part hpart
      cases hpart
  | cons v rest =>
      exact List.forall_mem_cons.mpr
        ⟨loneFree_literal v, loneFree_literals rest⟩

/-- The literals of entries show none. -/
theorem loneFree_entryLiterals (entries : List (Value × Value)) :
    ∀ part ∈ entryLiterals entries, LoneFree part := by
  match entries with
  | [] =>
      intro part hpart
      cases hpart
  | (k, v) :: rest =>
      have hk := loneFree_literal k
      have hv := loneFree_literal v
      refine List.forall_mem_cons.mpr ⟨?_, loneFree_entryLiterals rest⟩
      exact loneFree_append.mpr ⟨loneFree_append.mpr ⟨hk, by decide⟩, hv⟩

end

end Value

end Toolsmith
