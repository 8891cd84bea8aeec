/-
What a text must hold for the JSON reader to refuse it for its size. Every
reader leaves a suffix of the text that it was given, so what one of them
meets stands in the text as a whole: the digits of an integer that is too
long, and the openings that the reader was inside of when it went too deep.
-/
import Mathlib.Data.List.Infix
import Toolsmith.Json.Reader
import Toolsmith.Proofs.Number.Digits
import Toolsmith.Proofs.Steps

namespace Toolsmith.Json

open Text

-- ============================================================== account

/-- A character that opens a list or a mapping. -/
def isOpening (c : Char) : Bool := c == '[' || c == '\x7b'

/-- A text with room for so many openings bears a fault out. One that is
malformed needs nothing more to show for it; what is too long or too deep
stands in the text. -/
def Bears (room : Nat) (s : List Char) : Fault → Prop
  | .malformed _ _ => True
  | .integerTooLong digits =>
    Number.digitLimit < digits
      ∧ ∃ run, run <:+: s ∧ run.length = digits
          ∧ ∀ c ∈ run, isAsciiDigit c = true
  | .tooDeep _ => room < s.countP isOpening

/-- What a reader owes to the text that it was given: it leaves a suffix, or
the text bears the fault out. -/
def Accounts {α : Type} (room : Nat) (s : List Char) :
    Except Fault (α × Cursor) → Prop
  | .ok (_, next) => next.rest <:+ s
  | .error fault => Bears room s fault

variable {α β : Type} {room : Nat} {s t : List Char}

/-- A longer text bears out the same faults. -/
theorem Bears.of_suffix {fault : Fault} (h : Bears room t fault)
    (hsuffix : t <:+ s) : Bears room s fault := by
  cases fault with
  | malformed cause offset => trivial
  | integerTooLong digits =>
      obtain ⟨hlimit, run, hrun, hlength, hdigits⟩ := h
      exact ⟨hlimit, run, hrun.trans hsuffix.isInfix, hlength, hdigits⟩
  | tooDeep isMapping =>
      exact Nat.lt_of_lt_of_le h (hsuffix.sublist.countP_le)

/-- Room for one more opening is used up by one in front. -/
theorem Bears.of_opening {fault : Fault} {c : Char}
    (h : Bears (room - 1) t fault) (hc : isOpening c = true)
    (hsuffix : t <:+ s) : Bears room (c :: s) fault := by
  cases fault with
  | malformed cause offset => trivial
  | integerTooLong digits =>
      have hbears : Bears room t (.integerTooLong digits) := h
      exact hbears.of_suffix (hsuffix.trans (List.suffix_cons c s))
  | tooDeep isMapping =>
      have hcount : t.countP isOpening ≤ s.countP isOpening :=
        hsuffix.sublist.countP_le
      simp only [Bears, List.countP_cons, hc, if_true] at h ⊢
      omega

/-- A reader that was given a suffix accounts for the whole. -/
theorem Accounts.of_suffix {x : Except Fault (α × Cursor)}
    (h : Accounts room t x) (hsuffix : t <:+ s) : Accounts room s x := by
  cases x with
  | error fault => exact Bears.of_suffix h hsuffix
  | ok made => exact List.IsSuffix.trans h hsuffix

/-- Readers one after the other account for the text if each one does. -/
theorem Accounts.bind {x : Except Fault (α × Cursor)}
    {f : α × Cursor → Except Fault (β × Cursor)} (hx : Accounts room s x)
    (hf : ∀ made, x = .ok made → Accounts room made.2.rest (f made)) :
    Accounts room s (x >>= f) := by
  cases x with
  | error fault => exact hx
  | ok made => exact (hf made rfl).of_suffix hx

-- ============================================================== cursors

/-- Going forward leaves a suffix. -/
theorem Cursor.forward_suffix (c : Cursor) (n : Nat) :
    (c.forward n).rest <:+ c.rest :=
  List.drop_suffix n c.rest

/-- Skipping space leaves a suffix. -/
theorem Cursor.skipSpace_suffix (c : Cursor) : c.skipSpace.rest <:+ c.rest :=
  c.forward_suffix _

/-- A place further on and behind its space leaves a suffix. -/
theorem Cursor.forward_skipSpace_suffix (c : Cursor) (n : Nat) :
    (c.forward n).skipSpace.rest <:+ c.rest :=
  (c.forward n).skipSpace_suffix.trans (c.forward_suffix n)

/-- The reader of what a list or a mapping holds has one opening less to
go. -/
theorem Accounts.inside {cur : Cursor} {c : Char} {rest : List Char}
    {x : Except Fault (α × Cursor)} {f : α → Value}
    (hrest : cur.rest = c :: rest) (hc : isOpening c = true)
    (hx : Accounts (room - 1) (cur.forward 1).skipSpace.rest x) :
    Accounts room cur.rest
      (x >>= fun made => .ok (f made.1, made.2)) := by
  have hsuffix : (cur.forward 1).skipSpace.rest <:+ rest := by
    refine (cur.forward 1).skipSpace_suffix.trans ?_
    simp only [Cursor.forward, hrest, List.drop_succ_cons, List.drop_zero]
    exact List.suffix_refl rest
  rw [hrest]
  cases x with
  | error fault => exact Bears.of_opening hx hc hsuffix
  | ok made =>
      exact (List.IsSuffix.trans hx hsuffix).trans (List.suffix_cons c rest)

/-- Without room for an opening, the first one is too many. -/
theorem bears_opening {cur : Cursor} {c : Char} {rest : List Char}
    (isMapping : Bool) (hrest : cur.rest = c :: rest)
    (hc : isOpening c = true) (hroom : room = 0) :
    Bears room cur.rest (.tooDeep isMapping) := by
  simp only [Bears]
  rw [hrest, List.countP_cons_of_pos hc, hroom]
  exact Nat.succ_pos _

-- ============================================================== strings

/-- A string accounts for its text. -/
theorem accounts_readString (opening fuel : Nat) (cur : Cursor) :
    Accounts room cur.rest (readString opening fuel cur) := by
  induction fuel generalizing cur with
  | zero => exact trivial
  | succ fuel ih =>
      -- Every branch that goes on reads the string further on.
      have hmore : ∀ (n : Nat) (f : List Char → List Char),
          Accounts room cur.rest
            (readString opening fuel (cur.forward n) >>= fun made =>
              (.ok (f made.1, made.2) : Except Fault _)) := by
        intro n f
        refine Accounts.bind ((ih _).of_suffix (cur.forward_suffix n)) ?_
        intro made _
        exact List.suffix_refl _
      rw [readString]
      split
      · exact trivial
      · exact cur.forward_suffix 1
      · exact trivial
      · split
        · exact trivial
        · split
          · split
            · exact hmore 6 _
            · split
              · exact trivial
              · split
                · exact hmore 12 _
                · exact hmore 6 _
          · exact hmore 6 _
      · split
        · exact trivial
        · exact hmore 2 _
      · split
        · exact trivial
        · exact hmore 1 _

-- ============================================================== scalars

/-- The whole part of a number: a zero alone or all digits. -/
def wholeOf (body : List Char) : List Char :=
  if body.head? == some '0' then ['0'] else digitsOf body

/-- The whole part of a number stands at its start, and is of digits. -/
theorem wholeOf_isPrefix (body : List Char) :
    wholeOf body <+: body ∧ ∀ c ∈ wholeOf body, isAsciiDigit c = true := by
  cases hzero : body.head? == some '0' with
  | true =>
      obtain ⟨rest, rfl⟩ := List.head?_eq_some_iff.mp (eq_of_beq hzero)
      have hwhole : wholeOf ('0' :: rest) = ['0'] := rfl
      rw [hwhole]
      refine ⟨⟨rest, rfl⟩, ?_⟩
      intro c hc
      rw [List.mem_singleton.mp hc]
      decide
  | false =>
      have hwhole : wholeOf body = digitsOf body := by
        simp only [wholeOf, hzero]
        rfl
      rw [hwhole]
      exact ⟨List.takeWhile_prefix _,
        fun c hc => List.all_eq_true.mp List.all_takeWhile c hc⟩

/-- The text of an integer is its sign, if it has one, and its digits. -/
theorem take_integer {s whole : List Char} {negative : Bool}
    (hsign : (s.head? == some '-') = negative)
    (hwhole : whole <+: s.drop (if negative then 1 else 0)) :
    s.take ((if negative then 1 else 0) + whole.length)
      = (if negative then ['-'] else []) ++ whole := by
  obtain ⟨after, hafter⟩ := hwhole
  cases negative with
  | true =>
      obtain ⟨rest, rfl⟩ := List.head?_eq_some_iff.mp (eq_of_beq hsign)
      simp only [if_true, List.drop_succ_cons, List.drop_zero] at hafter
      rw [← hafter, if_pos rfl, if_pos rfl, Nat.add_comm]
      simp
  | false =>
      simp only [Bool.false_eq_true, if_false, List.drop_zero] at hafter
      rw [← hafter]
      simp

/-- The three ways of reading a number: it is refused, it is a double, or it
is an integer of digits that stand in the text. -/
theorem readNumber_cases (cur : Cursor) :
    (∃ cause, readNumber cur = cur.refuse cause)
      ∨ (∃ x size, readNumber cur = .ok (.float x, cur.forward size))
      ∨ ∃ (negative : Bool) (whole : List Char) (size : Nat),
          whole ≠ [] ∧ whole <:+: cur.rest
          ∧ (∀ c ∈ whole, isAsciiDigit c = true)
          ∧ readNumber cur =
            match Number.int? 10 ((if negative then ['-'] else []) ++ whole)
            with
            | .ok n => .ok (.int n, cur.forward size)
            | .error _ => .error (.integerTooLong whole.length) := by
  simp only [readNumber]
  generalize hnegative : (cur.rest.head? == some '-') = negative
  obtain ⟨hstart, hdigits⟩ :=
    wholeOf_isPrefix (cur.rest.drop (if negative then 1 else 0))
  have htake := take_integer hnegative hstart
  have hinfix := hstart.isInfix.trans (List.drop_suffix _ _).isInfix
  rw [wholeOf] at hstart htake hinfix hdigits
  generalize cur.rest.drop (if negative then 1 else 0) = body at *
  generalize (if body.head? == some '0' then ['0'] else digitsOf body)
    = whole at *
  split
  · exact Or.inl ⟨.value, rfl⟩
  next hne =>
  have hwhole : whole ≠ [] := by
    rintro rfl
    exact hne rfl
  split
  next hplain =>
    obtain ⟨hfraction, htail⟩ := Bool.and_eq_true_iff.mp hplain
    rw [eq_of_beq hfraction] at htail ⊢
    rw [eq_of_beq htail, Nat.add_zero, htake]
    exact Or.inr (Or.inr
      ⟨negative, whole, _, hwhole, hinfix, hdigits, rfl⟩)
  · split
    · exact Or.inr (Or.inl ⟨_, _, rfl⟩)
    · exact Or.inl ⟨.value, rfl⟩

/-- A number accounts for its text. -/
theorem accounts_readNumber (cur : Cursor) :
    Accounts room cur.rest (readNumber cur) := by
  rcases readNumber_cases cur with ⟨cause, hrun⟩ | ⟨x, size, hrun⟩
    | ⟨negative, whole, size, hne, hinfix, hdigits, hrun⟩
  · rw [hrun]
    exact trivial
  · rw [hrun]
    exact cur.forward_suffix size
  · rw [hrun, Number.int?_ascii hne hdigits]
    by_cases hlong : Number.digitLimit < whole.length
    · rw [if_pos hlong]
      exact ⟨hlong, whole, hinfix, rfl, hdigits⟩
    · rw [if_neg hlong]
      exact cur.forward_suffix size

/-- A word or a number accounts for its text. -/
theorem accounts_readScalar (cur : Cursor) :
    Accounts room cur.rest (readScalar cur) := by
  rw [readScalar]
  split
  · exact cur.forward_suffix _
  · exact accounts_readNumber cur

-- =============================================================== values

/-- Values, items and entries account for their text. -/
theorem accounts_readValue (fuel : Nat) :
    (∀ room cur, Accounts room cur.rest (readValue fuel room cur))
      ∧ (∀ room cur, Accounts room cur.rest (readItems fuel room cur))
      ∧ ∀ room cur, Accounts room cur.rest (readEntries fuel room cur) := by
  induction fuel with
  | zero =>
      refine ⟨?_, ?_, ?_⟩ <;> intro room cur <;> exact trivial
  | succ fuel ih =>
      obtain ⟨hvalue, hitems, hentries⟩ := ih
      refine ⟨?_, ?_, ?_⟩
      · intro room cur
        have hempty : ∀ (n : Nat),
            ((cur.forward 1).skipSpace.forward n).rest <:+ cur.rest :=
          fun n => ((cur.forward 1).skipSpace.forward_suffix n).trans
            (cur.forward_skipSpace_suffix 1)
        rw [readValue]
        split
        · refine Accounts.bind ((accounts_readString _ _ _).of_suffix
            (cur.forward_suffix 1)) ?_
          intro made _
          exact List.suffix_refl _
        next rest hrest =>
          split
          next hfull => exact bears_opening false hrest rfl (eq_of_beq hfull)
          dsimp only
          split
          · exact hempty 1
          · exact Accounts.inside hrest rfl (hitems _ _)
        next rest hrest =>
          split
          next hfull => exact bears_opening true hrest rfl (eq_of_beq hfull)
          dsimp only
          split
          · exact hempty 1
          · exact Accounts.inside hrest rfl (hentries _ _)
        · exact accounts_readScalar cur
      · intro room cur
        rw [readItems]
        refine Accounts.bind (hvalue room cur) ?_
        rintro ⟨v, next⟩ -
        dsimp only
        split
        · exact (next.skipSpace.forward_suffix 1).trans next.skipSpace_suffix
        · refine Accounts.bind ((hitems room _).of_suffix ?_) ?_
          · exact (next.skipSpace.forward_skipSpace_suffix 1).trans
              next.skipSpace_suffix
          · intro made _
            exact List.suffix_refl _
        · exact trivial
      · intro room cur
        rw [readEntries]
        split
        · refine Accounts.bind ((accounts_readString _ _ _).of_suffix
            (cur.forward_suffix 1)) ?_
          rintro ⟨key, next⟩ -
          dsimp only
          split
          · exact trivial
          refine Accounts.bind ((hvalue room _).of_suffix
            ((next.skipSpace.forward_skipSpace_suffix 1).trans
              next.skipSpace_suffix)) ?_
          rintro ⟨v, next⟩ -
          dsimp only
          split
          · exact (next.skipSpace.forward_suffix 1).trans
              next.skipSpace_suffix
          · refine Accounts.bind ((hentries room _).of_suffix ?_) ?_
            · exact (next.skipSpace.forward_skipSpace_suffix 1).trans
                next.skipSpace_suffix
            · intro made _
              exact List.suffix_refl _
          · exact trivial
        · exact trivial

/-- What the reader refuses for its size stands in the text: an integer of
more digits than are read, or more openings than are followed. -/
theorem bears_of_read_eq_error {s : List Char} {fault : Fault}
    (h : read s = .error fault) : Bears depthLimit s fault := by
  rw [read] at h
  split at h
  · cases h
    exact trivial
  rcases Steps.bind_eq_error.mp h with hvalue | ⟨made, _, hend⟩
  · have hread := (accounts_readValue (2 * s.length + 2)).1 depthLimit
      (Cursor.start s).skipSpace
    rw [hvalue] at hread
    exact Bears.of_suffix hread (Cursor.start s).skipSpace_suffix
  · dsimp only at hend
    split at hend
    · cases hend
    · cases hend
      exact trivial

end Toolsmith.Json
