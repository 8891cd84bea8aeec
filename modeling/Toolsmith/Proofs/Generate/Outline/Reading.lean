/-
How a reader comes over the parts of a source. Over a text that is known it is
computed; the lemmas here are for the parts that are not: words, literals,
values in brackets and comments. A word and a literal are done only with what
follows them, so their lemmas have the rest of the row in them.
-/
import Toolsmith.Proofs.Generate.Outline
import Toolsmith.Proofs.Json.Names

namespace Toolsmith.Generate.Outline

open Text

variable {t : Target} {i : Bool} {r r' r'' : Reader}
  {text rest above below : List Char} {out more : List Token}

-- ============================================================= reading

/-- The reader comes over the text, as far as `r'`, with these tokens. -/
def Reads (t : Target) (r : Reader) (text : List Char) (r' : Reader)
    (out : List Token) : Prop :=
  r.read t text = some (r', out)

instance : Decidable (Reads t r text r' out) :=
  inferInstanceAs (Decidable (_ = _))

namespace Reads

theorem nil : Reads t r [] r [] := rfl

theorem cons {c : Char} (hc : r.step t c = some (r', out))
    (h : Reads t r' rest r'' more) :
    Reads t r (c :: rest) r'' (out ++ more) := by
  unfold Reads at h ⊢
  rw [Reader.read, hc]
  show (r'.read t rest).bind _ = _
  rw [h]
  rfl

/-- A character that makes no token. -/
theorem quiet {c : Char} (hc : r.step t c = some (r', []))
    (h : Reads t r' rest r'' out) : Reads t r (c :: rest) r'' out :=
  cons hc h

theorem of_cons {c : Char} (h : Reads t r (c :: rest) r'' out) :
    ∃ r' first more, r.step t c = some (r', first)
      ∧ Reads t r' rest r'' more ∧ out = first ++ more := by
  unfold Reads at h
  rw [Reader.read] at h
  obtain ⟨⟨r', first⟩, hc, h⟩ := Option.bind_eq_some_iff.mp h
  obtain ⟨⟨last, more⟩, hrest, h⟩ := Option.bind_eq_some_iff.mp h
  cases h
  exact ⟨r', first, more, hc, hrest, rfl⟩

theorem append (habove : Reads t r above r' out)
    (hbelow : Reads t r' below r'' more) :
    Reads t r (above ++ below) r'' (out ++ more) := by
  induction above generalizing r out with
  | nil =>
      cases habove
      exact hbelow
  | cons c rest ih =>
      obtain ⟨next, first, behind, hc, hrest, rfl⟩ := habove.of_cons
      rw [List.append_assoc]
      exact .cons hc (ih hrest)

end Reads

-- =============================================================== words

/-- The text does not go on a word or a literal in front of it. -/
def isApart (t : Target) : List Char → Bool
  | c :: _ => !isWordPart c && !isQuote t c
  | [] => false

theorem exists_of_isApart (h : isApart t rest = true) :
    ∃ c more, rest = c :: more ∧ isWordPart c = false
      ∧ isQuote t c = false := by
  cases rest with
  | nil => cases h
  | cons c more =>
      unfold isApart at h
      rw [Bool.and_eq_true, Bool.not_eq_true', Bool.not_eq_true'] at h
      exact ⟨c, more, rfl, h.1, h.2⟩

theorem step_of_code (hr : r.mode = .code) (c : Char) :
    r.step t c = r.between t c := by
  unfold Reader.step
  rw [hr]

/-- In a word, its last letters and what follows it. -/
theorem reads_letters {letters : List Char} {c : Char}
    (hletters : ∀ c ∈ letters, isWordPart c = true) (seen : List Char)
    (hc : isWordPart c = false) (hstep : r.between t c = some (r', out))
    (h : Reads t r' rest r'' more) :
    Reads t (r.enter (.word seen)) (letters ++ c :: rest) r''
      (r.token (.word (String.ofList (seen ++ letters)))
        ++ (out ++ more)) := by
  induction letters generalizing seen with
  | nil =>
      rw [← List.append_assoc, List.append_nil]
      refine .cons ?_ h
      show (if isWordPart c then _ else _) = _
      rw [if_neg (by rw [hc]; exact Bool.false_ne_true)]
      show (r.between t c).map _ = _
      rw [hstep]
      rfl
  | cons d letters ih =>
      obtain ⟨hd, hall⟩ := List.forall_mem_cons.mp hletters
      have hgo := ih hall (seen ++ [d])
      rw [List.append_assoc] at hgo
      refine .quiet ?_ hgo
      show (if isWordPart d then _ else _) = _
      rw [if_pos hd]
      rfl

/-- A word, and what follows it. -/
theorem Reads.word {w : List Char} (hne : w ≠ [])
    (hw : ∀ c ∈ w, isWordPart c = true) (hr : r.mode = .code)
    (hapart : isApart t rest = true) (h : Reads t r rest r' out) :
    Reads t r (w ++ rest) r'
      (r.token (.word (String.ofList w)) ++ out) := by
  obtain ⟨c, behind, rfl, hc, -⟩ := exists_of_isApart hapart
  obtain ⟨next, first, more, hstep, hbehind, rfl⟩ := h.of_cons
  rw [step_of_code hr] at hstep
  cases w with
  | nil => exact absurd rfl hne
  | cons d letters =>
      obtain ⟨hd, hall⟩ := List.forall_mem_cons.mp hw
      refine .quiet ?_ (reads_letters hall [d] hc hstep hbehind)
      rw [step_of_code hr]
      unfold Reader.between
      rw [if_pos hd]

-- ============================================================ literals

/-- The text is a part of a literal with this quote. -/
def Stays (t : Target) (quote : Char) (text : List Char) : Prop :=
  ∀ (r : Reader) (body : List Char),
    Reads t (r.enter (.literal quote body)) text
      (r.enter (.literal quote (body ++ text))) []

variable {quote : Char}

theorem stays_nil : Stays t quote [] := by
  intro r body
  rw [List.append_nil]
  exact .nil

theorem stays_append (habove : Stays t quote above)
    (hbelow : Stays t quote below) : Stays t quote (above ++ below) := by
  intro r body
  rw [← List.append_assoc]
  exact (habove r body).append (hbelow r _)

theorem stays_flatMap {f : Char → List Char}
    (h : ∀ c ∈ text, Stays t quote (f c)) :
    Stays t quote (text.flatMap f) := by
  induction text with
  | nil => exact stays_nil
  | cons c rest ih =>
      obtain ⟨hc, hrest⟩ := List.forall_mem_cons.mp h
      rw [List.flatMap_cons]
      exact stays_append hc (ih hrest)

/-- The quotes that are not those of templates. -/
def IsPlainQuote (quote : Char) : Prop := quote = '"' ∨ quote = '\''

/-- A character that is no quote, no backslash and no break. -/
theorem stays_singleton {c : Char} (hquote : IsPlainQuote quote)
    (hc : c ≠ quote) (hslash : c ≠ '\\') (hfeed : c ≠ '\n')
    (hreturn : c ≠ '\r') : Stays t quote [c] := by
  intro r body
  refine .quiet ?_ .nil
  have htemplate : quote ≠ '\x60' := by
    rcases hquote with rfl | rfl <;> decide
  show (r.enter (.literal quote body)).inLiteral quote body c = _
  unfold Reader.inLiteral
  rw [if_neg (by simpa using hc), if_neg (by simpa using hslash),
    if_neg (by simp [htemplate]), if_neg (by simp [hfeed, hreturn])]
  rfl

/-- A character behind a backslash. -/
theorem stays_escape (hquote : IsPlainQuote quote) (c : Char) :
    Stays t quote ['\\', c] := by
  intro r body
  have hnext : Reads t (r.enter (.escaped quote body)) [c]
      (r.enter (.literal quote (body ++ ['\\', c]))) [] :=
    .quiet rfl .nil
  refine .quiet ?_ hnext
  have hslash : ('\\' == quote) = false := by
    rcases hquote with rfl | rfl <;> rfl
  show (r.enter (.literal quote body)).inLiteral quote body '\\' = _
  unfold Reader.inLiteral
  rw [hslash]
  rfl

/-- The letters, digits and underscores are parts of literals. -/
theorem stays_of_all_isNameChar (hquote : IsPlainQuote quote)
    (h : text.all isNameChar = true) : Stays t quote text := by
  induction text with
  | nil => exact stays_nil
  | cons c rest ih =>
      rw [List.all_cons, Bool.and_eq_true] at h
      have hother : ∀ d, isNameChar d = false → c ≠ d := fun d hd =>
        ne_of_apply_ne isNameChar (by simp [h.1, hd])
      have hc : c ≠ quote := by
        rcases hquote with rfl | rfl <;> exact hother _ (by decide)
      exact stays_append
        (stays_singleton hquote hc (hother _ (by decide))
          (hother _ (by decide)) (hother _ (by decide)))
        (ih h.2)

theorem all_isNameChar_hexText (width n : Nat) :
    (hexText width n).all isNameChar = true := by
  have hdigit : ∀ m < 16, isNameChar (hexDigit m) = true := by decide
  induction width generalizing n with
  | zero => rfl
  | succ width ih =>
      rw [hexText, List.all_append, ih, List.all_cons,
        hdigit _ (Nat.mod_lt _ (by decide))]
      rfl

/-- A backslash, a letter and hexadecimal digits. -/
theorem stays_hexEscape (hquote : IsPlainQuote quote) (c : Char)
    (width n : Nat) : Stays t quote ('\\' :: c :: hexText width n) :=
  stays_append (stays_escape hquote c)
    (stays_of_all_isNameChar hquote (all_isNameChar_hexText width n))

/-- The text is a literal with this body. -/
inductive Quotes (t : Target) : List Char → List Char → Prop where
  | intro {quote : Char} {body : List Char} (hquote : IsPlainQuote quote)
      (h : Stays t quote body) : Quotes t (quote :: body ++ [quote]) body

/-- A literal, and what follows it. -/
theorem Reads.literal {s body : List Char} (hs : Quotes t s body)
    (hr : r.mode = .code) (hapart : isApart t rest = true)
    (h : Reads t r rest r' out) :
    Reads t r (s ++ rest) r'
      (r.token (.literal (String.ofList body)) ++ out) := by
  cases hs with
  | @intro quote _ hquote hstays =>
  have hopen : r.step t quote = some (r.enter (.literal quote []), []) := by
    rw [step_of_code hr]
    rcases hquote with rfl | rfl <;> cases t <;> rfl
  have hclose : (r.enter (.literal quote body)).step t quote
      = some (r.enter (if body.isEmpty then .closed quote else .code),
        r.token (.literal (String.ofList body))) := by
    show (r.enter (.literal quote body)).inLiteral quote body quote = _
    unfold Reader.inLiteral
    rw [if_pos (beq_self_eq_true quote)]
    rfl
  have hbehind :
      Reads t (r.enter (if body.isEmpty then .closed quote else .code)) rest r'
        out := by
    obtain ⟨c, behind, rfl, -, hc⟩ := exists_of_isApart hapart
    obtain ⟨next, first, more, hstep, hbehind, rfl⟩ := h.of_cons
    rw [step_of_code hr] at hstep
    refine .cons ?_ hbehind
    split
    · have hne : (c == quote) = false := by
        refine beq_eq_false_iff_ne.mpr ?_
        rintro rfl
        rcases hquote with rfl | rfl <;> cases hc
      show (if c == quote then none else _) = _
      rw [hne]
      exact hstep
    · exact hstep
  have hbody := (hstays r []).append (Reads.cons hclose hbehind)
  rw [List.append_assoc, List.cons_append]
  exact .quiet hopen hbody

-- ================================================================ runs

/-- No statement ends in the text, and if it stands on an indented row, it is
left out. -/
def Runs (t : Target) (i : Bool) (r : Reader) (text : List Char)
    (r' : Reader) : Prop :=
  ∃ out, Reads t r text r' out ∧ ∀ k ∈ out, i = false ∧ k.ends t = false

theorem ends_word (n : Nat) (w : String) :
    Token.ends t ⟨.word w, n⟩ = false := by
  cases t <;> exact Bool.and_false _

theorem ends_literal (n : Nat) (s : String) :
    Token.ends t ⟨.literal s, n⟩ = false := by
  cases t <;> exact Bool.and_false _

theorem ends_of_pos {k : Token} (h : 0 < k.depth) : k.ends t = false := by
  unfold Token.ends
  rw [beq_eq_false_iff_ne.mpr h.ne', Bool.false_and]

/-- The tokens of a piece that ends no statement. -/
theorem forall_token {p : Piece} (hi : r.indented = i)
    (hends : Token.ends t ⟨p, r.awaited.length⟩ = false) :
    ∀ k ∈ r.token p, i = false ∧ k.ends t = false := by
  unfold Reader.token
  cases i with
  | true =>
      rw [if_pos hi]
      intro k hk
      cases hk
  | false =>
      rw [if_neg (by rw [hi]; exact Bool.false_ne_true)]
      exact List.forall_mem_singleton.mpr ⟨rfl, hends⟩

namespace Runs

/-- A text that is known is gone through. -/
theorem of_check
    (h : (r.read t text).any (fun x =>
      x.1 == r' && x.2.all fun k => !i && !k.ends t) = true) :
    Runs t i r text r' := by
  obtain ⟨⟨last, out⟩, hread, h⟩ := (Option.any_eq_true _ _).mp h
  rw [Bool.and_eq_true, beq_iff_eq, List.all_eq_true] at h
  obtain ⟨rfl, hall⟩ := h
  refine ⟨out, hread, fun k hk => ?_⟩
  have hk := hall k hk
  rw [Bool.and_eq_true, Bool.not_eq_true', Bool.not_eq_true'] at hk
  exact hk

theorem nil : Runs t i r [] r := ⟨[], .nil, fun _ h => (by cases h)⟩

theorem append (habove : Runs t i r above r')
    (hbelow : Runs t i r' below r'') : Runs t i r (above ++ below) r'' := by
  obtain ⟨out, hout, hends⟩ := habove
  obtain ⟨more, hmore, hmoreEnds⟩ := hbelow
  exact ⟨out ++ more, hout.append hmore,
    List.forall_mem_append.mpr ⟨hends, hmoreEnds⟩⟩

theorem word {w : List Char} (hne : w ≠ [])
    (hw : ∀ c ∈ w, isWordPart c = true) (hr : r.mode = .code)
    (hi : r.indented = i) (hapart : isApart t rest = true)
    (h : Runs t i r rest r') : Runs t i r (w ++ rest) r' := by
  obtain ⟨out, hout, hends⟩ := h
  exact ⟨_, hout.word hne hw hr hapart,
    List.forall_mem_append.mpr
      ⟨forall_token hi (ends_word _ _), hends⟩⟩

theorem literal {s body : List Char} (hs : Quotes t s body)
    (hr : r.mode = .code) (hi : r.indented = i)
    (hapart : isApart t rest = true) (h : Runs t i r rest r') :
    Runs t i r (s ++ rest) r' := by
  obtain ⟨out, hout, hends⟩ := h
  exact ⟨_, hout.literal hs hr hapart,
    List.forall_mem_append.mpr
      ⟨forall_token hi (ends_literal _ _), hends⟩⟩

/-- A mark or a bracket that ends no statement, and what follows it. -/
theorem step {c : Char} (hstep : r.step t c = some (r', out))
    (hends : ∀ k ∈ out, i = false ∧ k.ends t = false)
    (h : Runs t i r' rest r'') : Runs t i r (c :: rest) r'' := by
  obtain ⟨more, hmore, hmoreEnds⟩ := h
  exact ⟨out ++ more, .cons hstep hmore,
    List.forall_mem_append.mpr ⟨hends, hmoreEnds⟩⟩

end Runs

-- ============================================================== values

/-- Inside of brackets the text can stand in front of whatever does not go on a
word or a literal. -/
def Passes (t : Target) (text : List Char) : Prop :=
  ∀ ⦃i r rest r'⦄, r.mode = .code → r.indented = i → r.awaited ≠ [] →
    isApart t rest = true → Runs t i r rest r' →
      Runs t i r (text ++ rest) r'

theorem passes_literal {s body : List Char} (hs : Quotes t s body) :
    Passes t s :=
  fun _ _ _ _ hr hi _ hapart h => h.literal hs hr hi hapart

/-- A piece inside of brackets ends no statement. -/
theorem forall_token_of_awaited {p : Piece} (hi : r.indented = i)
    (hdeep : r.awaited ≠ []) :
    ∀ k ∈ r.token p, i = false ∧ k.ends t = false :=
  forall_token hi (ends_of_pos (List.length_pos_of_ne_nil hdeep))

/-- A colon or a comma inside of brackets, a blank, and what follows them. -/
theorem Runs.separator {c : Char} (hc : c = ':' ∨ c = ',')
    (hr : r.mode = .code) (hi : r.indented = i) (hdeep : r.awaited ≠ [])
    (h : Runs t i r rest r') : Runs t i r (c :: ' ' :: rest) r' := by
  have hcode : r.enter .code = r := by rw [← hr]; rfl
  have hmark : r.step t c = some (r, r.token (.mark c)) := by
    rw [step_of_code hr]
    refine Eq.trans ?_ (congrArg (fun x => some (x, _)) hcode)
    rcases hc with rfl | rfl <;> cases t <;> rfl
  have hblank : r.step t ' ' = some (r, []) := by
    rw [step_of_code hr]
    refine Eq.trans ?_ (congrArg (fun x => some (x, _)) hcode)
    cases t <;> rfl
  exact .step hmark (forall_token_of_awaited hi hdeep)
    (.step hblank (fun _ hk => (by cases hk)) h)

/-- A key, a colon and a value. -/
theorem passes_entry {key value : List Char} (hkey : Passes t key)
    (hvalue : Passes t value) : Passes t (key ++ ": ".toList ++ value) := by
  intro i r rest r' hr hi hdeep hapart h
  rw [List.append_assoc, List.append_assoc]
  refine hkey hr hi hdeep (by cases t <;> rfl) ?_
  exact .separator (.inl rfl) hr hi hdeep (hvalue hr hi hdeep hapart h)

/-- Members with commas between them. -/
theorem runs_members {members : List (List Char)}
    (hmembers : ∀ part ∈ members, Passes t part) (hr : r.mode = .code)
    (hi : r.indented = i) (hdeep : r.awaited ≠ [])
    (hapart : isApart t rest = true) (h : Runs t i r rest r') :
    Runs t i r (join ", ".toList members ++ rest) r' := by
  induction members with
  | nil => exact h
  | cons part others ih =>
      obtain ⟨hpart, hothers⟩ := List.forall_mem_cons.mp hmembers
      have hothers := ih hothers
      cases others with
      | nil => exact hpart hr hi hdeep hapart h
      | cons next others =>
          rw [join, List.append_assoc, List.append_assoc]
          · refine hpart hr hi hdeep (by cases t <;> rfl) ?_
            exact .separator (.inr rfl) hr hi hdeep hothers
          · exact List.cons_ne_nil _ _

/-- The brackets of lists and of mappings. -/
def IsBracket (opening closing : Char) : Prop :=
  (opening = '[' ∧ closing = ']')
    ∨ (opening = '\x7b' ∧ closing = '\x7d')

/-- Members between brackets. -/
theorem passes_bracketed {opening closing : Char}
    (hbracket : IsBracket opening closing) {members : List (List Char)}
    (hmembers : ∀ part ∈ members, Passes t part) :
    Passes t (opening :: join ", ".toList members ++ [closing]) := by
  intro i r rest r' hr hi hdeep hapart h
  have hopen : r.step t opening
      = some (⟨.code, closing :: r.awaited, r.indented⟩,
        r.token (.mark opening)) := by
    rw [step_of_code hr]
    rcases hbracket with ⟨rfl, rfl⟩ | ⟨rfl, rfl⟩ <;> cases t <;> rfl
  have hclose : (⟨.code, closing :: r.awaited, r.indented⟩ : Reader).step t
      closing = some (r, r.token (.mark closing)) := by
    have hcode : r.enter .code = r := by rw [← hr]; rfl
    refine Eq.trans ?_ (congrArg (fun x => some (x, _)) hcode)
    rcases hbracket with ⟨rfl, rfl⟩ | ⟨rfl, rfl⟩ <;> cases t <;> rfl
  have hgap : isApart t (closing :: rest) = true := by
    rcases hbracket with ⟨rfl, rfl⟩ | ⟨rfl, rfl⟩ <;> cases t <;> rfl
  rw [List.append_assoc, List.cons_append]
  refine .step hopen (forall_token_of_awaited hi hdeep) ?_
  refine runs_members hmembers rfl hi (List.cons_ne_nil _ _) hgap ?_
  exact .step hclose (forall_token_of_awaited hi hdeep) h

-- ============================================================ comments

/-- A known text is checked to be on one row. -/
theorem forall_of_check (h : (text.all fun c => !isBreak t c) = true) :
    ∀ c ∈ text, isBreak t c = false := fun c hc =>
  Bool.not_eq_true' _ ▸ List.all_eq_true.mp h c hc

/-- A comment goes on up to the end of the row. -/
theorem reads_row (h : ∀ c ∈ text, isBreak t c = false) :
    Reads t (r.enter .row) text (r.enter .row) [] := by
  induction text with
  | nil => exact .nil
  | cons c rest ih =>
      obtain ⟨hc, hrest⟩ := List.forall_mem_cons.mp h
      refine .quiet ?_ (ih hrest)
      show (if isBreak t c then _ else _) = _
      rw [if_neg (by rw [hc]; exact Bool.false_ne_true)]

/-- A comment up to a mark goes on over a row without the mark. -/
theorem reads_block (h : ¬ "*/".toList <:+: text) :
    Reads t (r.enter .block) (text ++ ['\n']) (r.enter .block) [] := by
  have hboth :
      (¬ "*/".toList <:+: text →
        Reads t (r.enter .block) (text ++ ['\n']) (r.enter .block) [])
      ∧ (¬ "*/".toList <:+: '*' :: text →
        Reads t (r.enter .star) (text ++ ['\n']) (r.enter .block) []) := by
    clear h
    induction text with
    | nil => exact ⟨fun _ => rfl, fun _ => rfl⟩
    | cons c rest ih =>
        have hmode : ∀ m : Mode, m = (if c == '*' then .star else .block) →
            ¬ "*/".toList <:+: c :: rest →
            Reads t (r.enter m) (rest ++ ['\n']) (r.enter .block) [] := by
          rintro m rfl h
          split
          next hc =>
            rw [beq_iff_eq.mp hc] at h
            exact ih.2 h
          next => exact ih.1 fun hin => h (List.infix_cons hin)
        refine ⟨fun h => .quiet rfl (hmode _ rfl h), ?_⟩
        intro h
        have hc : c ≠ '/' := by
          rintro rfl
          exact h (List.prefix_append ['*', '/'] rest).isInfix
        refine .quiet ?_ (hmode _ rfl fun hin => h (List.infix_cons hin))
        show some (r.enter (if c == '/' then _ else _), _) = _
        rw [if_neg (by simpa using hc)]
  exact hboth.1 h

end Toolsmith.Generate.Outline
