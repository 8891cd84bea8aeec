/-
What a YAML text must hold for its scanner to stop at more than a character
out of place. Every reader leaves a place in the text that it was given, so
what one of them meets stands in the text as a whole; and the only thing
with a fault of its own is an escape in double quotes, for a number that is
no code point.
-/
import Mathlib.Data.List.Infix
import Toolsmith.Proofs.Steps
import Toolsmith.Yaml.Token

namespace Toolsmith.Yaml

open Text

-- ============================================================== places

/-- The place is one of the text: what is to come from there is its end. -/
def Cursor.In (c : Cursor) (s : List Char) : Prop := c.rest <:+ s

variable {s : List Char} {c : Cursor}

namespace Cursor

theorem rest_step (c : Cursor) : c.step.rest = c.rest.drop 1 := by
  unfold step
  split
  next h => rw [h]; rfl
  next x rest h =>
    rw [h]
    split
    · rfl
    · split <;> rfl

theorem rest_forward (n : Nat) (c : Cursor) :
    (c.forward n).rest = c.rest.drop n := by
  induction n generalizing c with
  | zero => rfl
  | succ n ih => rw [forward, ih, rest_step, List.drop_drop, Nat.add_comm]

theorem In.forward (h : c.In s) (n : Nat) : (c.forward n).In s := by
  unfold In
  rw [rest_forward]
  exact (List.drop_suffix n _).trans h

theorem In.step (h : c.In s) : c.step.In s := h.forward 1

theorem In.takeWhile (h : c.In s) (p : Char → Bool) :
    (c.takeWhile p).2.In s :=
  h.forward _

theorem In.skipWhile (h : c.In s) (p : Char → Bool) : (c.skipWhile p).In s :=
  h.takeWhile p

theorem In.skipSpaces (h : c.In s) : c.skipSpaces.In s := h.skipWhile _

theorem In.takeBreak (h : c.In s) : c.takeBreak.2.In s := by
  unfold Cursor.takeBreak
  split
  · exact h.forward 2
  · split
    · exact h.step
    · split
      · exact h.step
      · exact h
  · exact h

end Cursor

-- ============================================================= accounts

/-- An escape for the number stands in the text: a letter behind a backslash,
and as many hexadecimal digits as the letter asks for. -/
def HoldsEscape (s : List Char) (n : Nat) : Prop :=
  ∃ letter digits values, '\\' :: letter :: digits <:+: s
    ∧ escapeWidth? letter = some digits.length
    ∧ digits.mapM hexValue? = some values ∧ Number.ofDigits 16 values = n

/-- A text bears out a fault of its scanner: a character is out of place, or an
escape in it names no code point. -/
inductive Bears (s : List Char) : Fault → Prop where
  | token : Bears s .token
  | escape {n : Nat} {fault : Fault} (hheld : HoldsEscape s n)
      (hfault : escapedChar n = .error fault) : Bears s fault

/-- What a reader owes to the text: it leaves a place in it, or the text bears
the fault out. -/
structure Accounts {α : Type} (s : List Char) (place : α → Cursor)
    (x : Except Fault α) : Prop where
  ok : ∀ {a}, x = .ok a → (place a).In s
  error : ∀ {fault}, x = .error fault → Bears s fault

namespace Accounts

variable {α β : Type} {place : α → Cursor} {place' : β → Cursor}

theorem pure {a : α} (h : (place a).In s) : Accounts s place (.ok a) where
  ok heq := by cases heq; exact h
  error heq := by cases heq

theorem refuse : Accounts s place (.error .token) where
  ok heq := by cases heq
  error heq := by cases heq; exact .token

theorem bind {x : Except Fault α} {f : α → Except Fault β}
    (hx : Accounts s place x)
    (hf : ∀ a, x = .ok a → (place a).In s → Accounts s place' (f a)) :
    Accounts s place' (x >>= f) where
  ok h := by
    obtain ⟨a, ha, h⟩ := Steps.bind_eq_ok.mp h
    exact (hf a ha (hx.ok ha)).ok h
  error h := by
    rcases Steps.bind_eq_error.mp h with h | ⟨a, ha, h⟩
    · exact hx.error h
    · exact (hf a ha (hx.ok ha)).error h

theorem ite {p : Prop} [Decidable p] {x y : Except Fault α}
    (hx : Accounts s place x) (hy : Accounts s place y) :
    Accounts s place (if p then x else y) := by
  split
  · exact hx
  · exact hy

theorem guard {p : Prop} [Decidable p] {a : α} (h : (place a).In s) :
    Accounts s place (if p then .ok a else .error .token) :=
  .ite (.pure h) .refuse

end Accounts

-- ============================================================== quoted

theorem accounts_hexNumber (h : c.In s) (count : Nat) :
    Accounts s Prod.snd (hexNumber count c) := by
  unfold hexNumber
  dsimp only
  split
  · split
    · exact .pure (h.forward count)
    · exact .refuse
  · exact .refuse

/-- What a hexadecimal number is read from. -/
theorem hexNumber_eq_ok {count n : Nat} {next : Cursor}
    (h : hexNumber count c = .ok (n, next)) :
    ∃ digits values, digits <+: c.rest ∧ digits.length = count
      ∧ digits.mapM hexValue? = some values
      ∧ Number.ofDigits 16 values = n := by
  unfold hexNumber at h
  dsimp only at h
  split at h
  next values hvalues =>
    split at h
    next hlength =>
      cases h
      exact ⟨_, values, List.take_prefix _ _, beq_iff_eq.mp hlength, hvalues,
        rfl⟩
    next => cases h
  next => cases h

theorem accounts_quotedBreaks (fuel : Nat) (h : c.In s) :
    Accounts s Prod.snd (quotedBreaks fuel c) := by
  induction fuel generalizing c with
  | zero => exact .refuse
  | succ fuel ih =>
      unfold quotedBreaks
      split
      · exact .refuse
      · have hnext : (c.skipWhile fun x => x == ' ' || x == '\t').takeBreak.2.In
            s := (h.skipWhile _).takeBreak
        dsimp only
        split
        next heq =>
          rw [heq] at hnext
          exact .pure hnext
        next heq =>
          rw [heq] at hnext
          exact .bind (ih hnext) fun _ _ h => .pure h

/-- An escape that is met at a place stands in the text. -/
theorem holdsEscape_of_hexNumber (h : c.In s) {letter : Char}
    {rest : List Char} (hrest : c.rest = '\\' :: letter :: rest) {width n : Nat}
    (hwidth : escapeWidth? letter = some width) {next : Cursor}
    (hnumber : hexNumber width (c.forward 2) = .ok (n, next)) :
    HoldsEscape s n := by
  obtain ⟨digits, values, hprefix, hlength, hvalues, hn⟩ :=
    hexNumber_eq_ok hnumber
  rw [Cursor.rest_forward, hrest] at hprefix
  refine ⟨letter, digits, values, ?_, hlength ▸ hwidth, hvalues, hn⟩
  have hstart : '\\' :: letter :: digits <+: c.rest := by
    rw [hrest]
    exact (List.prefix_cons_inj _).mpr ((List.prefix_cons_inj _).mpr hprefix)
  exact hstart.isInfix.trans h.isInfix

/-- The text bears out that an escape in it names no code point. -/
theorem accounts_escapedChar {n : Nat} (hheld : HoldsEscape s n)
    (h : c.In s) : Accounts s (fun _ => c) (escapedChar n) where
  ok _ := h
  error hfault := .escape hheld hfault

theorem accounts_quotedRest (double : Bool) (fuel : Nat) (h : c.In s) :
    Accounts s Prod.snd (quotedRest double fuel c) := by
  induction fuel generalizing c with
  | zero => exact .refuse
  | succ fuel ih =>
  have hmore : ∀ {c : Cursor} (change : List Char → List Char), c.In s →
      Accounts s Prod.snd (quotedRest double fuel c >>= fun found =>
        pure (change found.1, found.2)) :=
    fun change h => .bind (ih h) fun _ _ h => .pure h
  unfold quotedRest
  split
  · exact .refuse
  · split
    · exact hmore _ (h.forward 1)
    · exact hmore _ (h.forward 2)
  next _ x rest _ hrest =>
  by_cases hclose : (x == if double then '"' else '\'') = true
  · rw [if_pos hclose]
    exact .pure h.step
  rw [if_neg hclose]
  by_cases hescape : (double && x == '\\') = true
  · rw [if_pos hescape]
    rw [Bool.and_eq_true, beq_iff_eq] at hescape
    obtain ⟨-, rfl⟩ := hescape
    cases rest with
    | nil => exact .refuse
    | cons e more =>
    dsimp only
    cases simpleEscape? e with
    | some plain => exact hmore _ (h.forward 2)
    | none =>
    cases hwidth : escapeWidth? e with
    | some width =>
        refine .bind (accounts_hexNumber (h.forward 2) width) ?_
        rintro ⟨n, next⟩ hnumber hnext
        refine .bind (accounts_escapedChar
          (holdsEscape_of_hexNumber h hrest hwidth hnumber) hnext) ?_
        exact fun _ _ hnext => hmore _ hnext
    | none =>
        dsimp only
        split
        · exact .bind (accounts_quotedBreaks _ h.step.takeBreak)
            fun _ _ h => hmore _ h
        · exact .refuse
  rw [if_neg hescape]
  split
  · have hblanks := (h.takeWhile fun x => x == ' ' || x == '\t').takeBreak
    dsimp only
    split
    next heq =>
      rw [heq] at hblanks
      exact hmore _ hblanks
    next heq =>
      rw [heq] at hblanks
      exact .bind (accounts_quotedBreaks _ hblanks) fun _ _ h => hmore _ h
  · exact hmore _ h.step

theorem accounts_quoted (double : Bool) (h : c.In s) :
    Accounts s Prod.snd (quoted double c) :=
  accounts_quotedRest double c.limit h.step

-- =============================================================== plain

theorem in_plainBreaks (fuel : Nat) (h : c.In s) :
    (plainBreaks fuel c).2.In s := by
  induction fuel generalizing c with
  | zero => exact h
  | succ fuel ih =>
      unfold plainBreaks
      split
      · exact h
      · have hnext := h.skipSpaces.takeBreak
        dsimp only
        split
        next heq =>
          rw [heq] at hnext
          exact hnext
        next heq =>
          rw [heq] at hnext
          exact ih hnext

theorem in_plainGap (h : c.In s) : (plainGap c).2.1.In s := by
  have hspaces := (h.takeWhile (· == ' ')).takeBreak
  unfold plainGap
  dsimp only
  split
  next heq =>
    rw [heq] at hspaces
    exact hspaces
  next first next _ heq =>
    rw [heq] at hspaces
    have hbreaks := in_plainBreaks next.limit hspaces
    split
    next heq =>
      rw [heq] at hbreaks
      exact hbreaks
    next heq =>
      rw [heq] at hbreaks
      exact hbreaks

theorem in_plainWords (inBrackets : Bool) (indent : Int) (fuel : Nat)
    (gap : List Char) (newLine : Bool) (h : c.In s) :
    (plainWords inBrackets indent fuel gap newLine c).2.1.In s := by
  induction fuel generalizing c gap newLine with
  | zero => exact h
  | succ fuel ih =>
      unfold plainWords
      dsimp only
      split
      · exact h
      · have hgap := in_plainGap (h.forward (plainLength inBrackets c.rest))
        split
        · exact hgap
        · exact ih _ _ hgap

-- =============================================================== block

theorem accounts_finishLine (h : c.In s) :
    Accounts s id c.finishLine := by
  unfold Cursor.finishLine
  dsimp only
  split
  · exact .guard (h.skipSpaces.skipWhile _).takeBreak
  · exact .guard h.skipSpaces.takeBreak

theorem accounts_indentation? (h : c.In s) (x : Option Char) :
    Accounts s (fun _ => c) (indentation? x) := by
  unfold indentation?
  split
  · split
    · exact .refuse
    · split <;> exact .pure h
  · exact .pure h

theorem accounts_blockHeader (h : c.In s) :
    Accounts s (fun found => found.2.2) (blockHeader c) := by
  unfold blockHeader
  dsimp only
  split
  · exact .bind (accounts_indentation? h _) fun _ _ h => .guard (h.forward _)
  · refine .bind (accounts_indentation? h _) fun size _ h => ?_
    cases size with
    | none => exact .guard h
    | some size =>
        dsimp only
        split
        · exact .guard (h.forward 2)
        · exact .guard (h.forward 1)

theorem in_skipIndent (indent fuel : Nat) (h : c.In s) :
    (skipIndent indent fuel c).In s := by
  induction fuel generalizing c with
  | zero => exact h
  | succ fuel ih =>
      unfold skipIndent
      split
      · exact ih h.step
      · exact h

theorem in_blockBreaks (indent fuel : Nat) (h : c.In s) :
    (blockBreaks indent fuel c).2.In s := by
  induction fuel generalizing c with
  | zero => exact h
  | succ fuel ih =>
      have hnext := (in_skipIndent indent c.limit h).takeBreak
      unfold blockBreaks
      dsimp only
      split
      next heq =>
        rw [heq] at hnext
        exact hnext
      next heq =>
        rw [heq] at hnext
        exact ih hnext

theorem in_blockIndent (fuel widest : Nat) (h : c.In s) :
    (blockIndent fuel widest c).2.2.In s := by
  induction fuel generalizing c widest with
  | zero => exact h
  | succ fuel ih =>
      unfold blockIndent
      split
      · exact ih _ h.step
      · have hnext := h.takeBreak
        split
        next heq =>
          rw [heq] at hnext
          exact hnext
        next heq =>
          rw [heq] at hnext
          exact ih _ hnext

theorem in_blockLines (folded : Bool) (indent fuel : Nat)
    (breaks : List Char) (h : c.In s) :
    (blockLines folded indent fuel breaks c).2.2.2.In s := by
  induction fuel generalizing c breaks with
  | zero => exact h
  | succ fuel ih =>
      unfold blockLines
      split
      · exact h
      · have hnext := in_blockBreaks indent
          (c.takeWhile (!isBreak ·)).2.takeBreak.2.limit
          (h.takeWhile (!isBreak ·)).takeBreak
        dsimp only
        split
        · exact ih _ hnext
        · exact hnext

theorem accounts_block (folded : Bool) (parent : Int) (h : c.In s) :
    Accounts s Prod.snd (block folded parent c) := by
  unfold block
  refine .bind (accounts_blockHeader h.step) fun found _ h => ?_
  obtain ⟨chomp, size, c⟩ := found
  refine .bind (accounts_finishLine h) fun next _ hnext => ?_
  change next.In s at hnext
  dsimp only
  cases size with
  | none => exact .pure (in_blockLines _ _ _ _ (in_blockIndent _ _ hnext))
  | some n => exact .pure (in_blockLines _ _ _ _ (in_blockBreaks _ _ hnext))

-- ===================================================== tags, directives

theorem accounts_uriOctets (fuel : Nat) (h : c.In s) :
    Accounts s Prod.snd (uriOctets fuel c) := by
  induction fuel generalizing c with
  | zero => exact .pure h
  | succ fuel ih =>
      unfold uriOctets
      split
      · exact .bind (accounts_hexNumber h.step 2) fun _ _ h =>
          .bind (ih h) fun _ _ h => .pure h
      · exact .pure h

theorem accounts_uriRest (fuel : Nat) (h : c.In s) :
    Accounts s Prod.snd (uriRest fuel c) := by
  induction fuel generalizing c with
  | zero => exact .pure h
  | succ fuel ih =>
      unfold uriRest
      split
      · exact .pure h
      · split
        · refine .bind (accounts_uriOctets _ h) fun _ _ h => ?_
          dsimp only
          split
          · exact .refuse
          · exact .bind (ih h) fun _ _ h => .pure h
        · split
          · exact .bind (ih h.step) fun _ _ h => .pure h
          · exact .pure h

theorem accounts_uri (h : c.In s) : Accounts s Prod.snd (uri c) := by
  refine .bind (accounts_uriRest c.limit h) fun _ _ h => ?_
  dsimp only
  split
  · exact .refuse
  · exact .pure h

theorem accounts_tagHandle (h : c.In s) :
    Accounts s Prod.snd (tagHandle c) := by
  unfold tagHandle
  split
  · exact .refuse
  · have hword := h.step.takeWhile isWord
    dsimp only
    split
    · exact .pure hword.step
    · split
      · exact .pure hword
      · exact .refuse

theorem accounts_tag (h : c.In s) : Accounts s Prod.snd (tag c) := by
  unfold tag
  dsimp only
  split
  · refine .bind (accounts_uri (h.forward 2)) fun _ _ h => ?_
    split
    · exact .guard h.step
    · exact .refuse
  · split
    · exact .guard h.step
    · split
      · exact .bind (accounts_tagHandle h) fun _ _ h =>
          .bind (accounts_uri h) fun _ _ h => .bind (.pure h) fun _ _ h =>
            .guard h
      · exact .bind (.pure h.step) fun _ _ h =>
          .bind (accounts_uri h) fun _ _ h => .bind (.pure h) fun _ _ h =>
            .guard h

theorem accounts_anchorName (h : c.In s) :
    Accounts s Prod.snd (anchorName c) := by
  unfold anchorName
  dsimp only
  split
  · exact .refuse
  · exact .pure (h.step.takeWhile isWord)

theorem accounts_decimal (h : c.In s) : Accounts s Prod.snd (decimal c) := by
  unfold decimal
  dsimp only
  split
  · exact .refuse
  · exact .pure (h.takeWhile isAsciiDigit)

theorem accounts_versionDirective (h : c.In s) :
    Accounts s Prod.snd (versionDirective c) := by
  refine .bind (accounts_decimal h.skipSpaces) fun _ _ h => ?_
  dsimp only
  split
  · exact .refuse
  · refine .bind (accounts_decimal h.step) fun _ _ h => ?_
    split
    · exact .pure h
    · exact .refuse

theorem accounts_tagDirective (h : c.In s) :
    Accounts s Prod.snd (tagDirective c) := by
  refine .bind (accounts_tagHandle h.skipSpaces) fun _ _ h => ?_
  dsimp only
  split
  · exact .refuse
  · refine .bind (accounts_uri h.skipSpaces) fun _ _ h => ?_
    split
    · exact .pure h
    · exact .refuse

theorem accounts_directive (h : c.In s) :
    Accounts s Prod.snd (directive c) := by
  have hname := h.step.takeWhile isWord
  have hend : ∀ {c : Cursor} (d : Directive), c.In s →
      Accounts s Prod.snd (do
        let next ← c.finishLine
        .ok (Token.directive d, next)) :=
    fun d h => .bind (accounts_finishLine h) fun _ _ h => .pure h
  unfold directive
  dsimp only
  split
  · exact .refuse
  · split
    · exact .bind (accounts_versionDirective hname) fun _ _ h => hend _ h
    · split
      · exact .bind (accounts_tagDirective hname) fun _ _ h => hend _ h
      · exact hend _ (hname.skipWhile _)

-- ============================================================= scanner

namespace Scanner

variable {sc : Scanner}

theorem cursor_closeBlocks (column : Int) (indents : List Nat)
    (sc : Scanner) : (closeBlocks column indents sc).cursor = sc.cursor := by
  induction indents generalizing sc with
  | nil => rfl
  | cons i rest ih =>
      unfold closeBlocks
      split
      · rw [ih]
        rfl
      · rfl

theorem cursor_unwind (column : Int) (sc : Scanner) :
    (sc.unwind column).cursor = sc.cursor := by
  unfold unwind
  split
  · exact cursor_closeBlocks column sc.indents sc
  · rfl

theorem cursor_openBlock (column count : Nat) (t : Token) (sc : Scanner) :
    (sc.openBlock column count t).cursor = sc.cursor := by
  unfold openBlock
  split <;> rfl

theorem in_skipSpace (fuel : Nat) (h : sc.cursor.In s) :
    (skipSpace fuel sc).cursor.In s := by
  have hblank : ∀ {sc : Scanner}, sc.cursor.In s →
      (if sc.cursor.skipSpaces.head == some '#' then
        sc.cursor.skipSpaces.skipWhile (!isBreak ·)
      else sc.cursor.skipSpaces).In s := by
    intro sc h
    split
    · exact h.skipSpaces.skipWhile _
    · exact h.skipSpaces
  induction fuel generalizing sc with
  | zero => exact h
  | succ fuel ih =>
      have hnext := (hblank h).takeBreak
      unfold skipSpace
      dsimp only
      split
      next heq =>
        rw [heq] at hnext
        exact hnext
      next heq =>
        rw [heq] at hnext
        exact ih hnext

theorem accounts_dropStale (h : sc.cursor.In s) :
    Accounts s Scanner.cursor sc.dropStale := by
  unfold dropStale
  split
  · exact .refuse
  · exact .pure h

theorem accounts_dropPending (h : sc.cursor.In s) :
    Accounts s Scanner.cursor sc.dropPending := by
  unfold dropPending
  split
  · exact .refuse
  · exact .pure h

theorem accounts_markPending (h : sc.cursor.In s) :
    Accounts s Scanner.cursor sc.markPending := by
  unfold markPending
  split
  · exact .pure h
  · exact .bind (accounts_dropPending h) fun _ _ h => .pure h

theorem accounts_openBracket (t : Token) (h : sc.cursor.In s) :
    Accounts s Scanner.cursor (sc.openBracket t) :=
  .bind (accounts_markPending h) fun _ _ h => .pure (h.forward 1)

theorem accounts_closeBracket (t : Token) (h : sc.cursor.In s) :
    Accounts s Scanner.cursor (sc.closeBracket t) :=
  .bind (accounts_dropPending h) fun _ _ h => .pure (h.forward 1)

theorem accounts_comma (h : sc.cursor.In s) :
    Accounts s Scanner.cursor sc.comma :=
  .bind (accounts_dropPending h) fun _ _ h => .pure (h.forward 1)

theorem accounts_outermost (t : Token) (h : sc.cursor.In s) {next : Cursor}
    (hnext : next.In s) : Accounts s Scanner.cursor (sc.outermost t next) := by
  have hcursor : (sc.unwind (-1)).cursor.In s := by
    rw [cursor_unwind]
    exact h
  exact .bind (accounts_dropPending hcursor) fun _ _ _ => .pure hnext

theorem accounts_blockMark (t opening : Token) (keyAllowed : Bool)
    (h : sc.cursor.In s) :
    Accounts s Scanner.cursor (sc.blockMark t opening keyAllowed) := by
  unfold blockMark
  dsimp only
  split
  · exact .refuse
  · refine .bind (accounts_dropPending ?_) fun _ _ h => .pure (h.forward 1)
    split
    · rw [cursor_openBlock]
      exact h
    · exact h

theorem accounts_valueMark (h : sc.cursor.In s) :
    Accounts s Scanner.cursor sc.valueMark := by
  unfold valueMark
  split
  · refine .pure ?_
    dsimp only
    split
    · exact Cursor.In.forward (by rw [push, cursor_openBlock]; exact h) 1
    · exact h.forward 1
  · exact accounts_blockMark _ _ _ h

theorem accounts_keyLike {read : Cursor → Except Fault (Token × Cursor)}
    (hread : ∀ {c : Cursor}, c.In s → Accounts s Prod.snd (read c))
    (h : sc.cursor.In s) : Accounts s Scanner.cursor (sc.keyLike read) :=
  .bind (accounts_markPending h) fun _ _ h =>
    .bind (hread h) fun _ _ h => .pure h

theorem accounts_plainToken (h : sc.cursor.In s) :
    Accounts s Scanner.cursor sc.plainToken :=
  .bind (accounts_markPending h) fun _ _ h =>
    .pure (in_plainWords _ _ _ _ _ h)

theorem accounts_blockToken (folded : Bool) (h : sc.cursor.In s) :
    Accounts s Scanner.cursor (sc.blockToken folded) :=
  .bind (accounts_dropPending h) fun _ _ h =>
    .bind (accounts_block _ _ h) fun _ _ h => .pure h

theorem accounts_scanToken (x : Char) (h : sc.cursor.In s) :
    Accounts s Scanner.cursor (sc.scanToken x) := by
  have hunwound : (sc.unwind (-1)).cursor.In s := by
    rw [cursor_unwind]
    exact h
  unfold scanToken
  dsimp only
  refine .ite (.bind (accounts_dropPending hunwound) fun _ _ _ =>
    .bind (accounts_directive h) fun _ _ h => .pure h) ?_
  refine .ite (accounts_outermost _ h (h.forward 3)) ?_
  refine .ite (accounts_outermost _ h (h.forward 3)) ?_
  refine .ite (accounts_openBracket _ h) (.ite (accounts_openBracket _ h) ?_)
  refine .ite (accounts_closeBracket _ h) (.ite (accounts_closeBracket _ h) ?_)
  refine .ite (accounts_comma h) ?_
  refine .ite (accounts_blockMark _ _ _ h) ?_
  refine .ite (accounts_blockMark _ _ _ h) ?_
  refine .ite (accounts_valueMark h) ?_
  refine .ite (accounts_keyLike (fun h => .bind (accounts_anchorName h)
    fun _ _ h => .pure h) h) ?_
  refine .ite (accounts_keyLike (fun h => .bind (accounts_anchorName h)
    fun _ _ h => .pure h) h) ?_
  refine .ite (accounts_keyLike accounts_tag h) ?_
  refine .ite (accounts_blockToken _ h) (.ite (accounts_blockToken _ h) ?_)
  refine .ite (accounts_keyLike (fun h => .bind (accounts_quoted _ h)
    fun _ _ h => .pure h) h) ?_
  exact .ite (accounts_plainToken h) .refuse

theorem accounts_next (h : sc.cursor.In s) :
    Accounts s (fun found => found.1.cursor) sc.next := by
  have hunwound : ∀ {sc : Scanner} (column : Int), sc.cursor.In s →
      (sc.unwind column).cursor.In s := by
    intro sc column h
    rw [cursor_unwind]
    exact h
  unfold next
  dsimp only
  refine .bind (accounts_dropStale (in_skipSpace _ h)) fun sc _ h => ?_
  split
  · exact .bind (accounts_dropPending (hunwound _ (hunwound _ h)))
      fun _ _ h => .pure h
  · exact .bind (accounts_scanToken _ (hunwound _ h)) fun _ _ h => .pure h

/-- What the scanner stops at is borne out by the text. -/
theorem bears_of_run (fuel : Nat) (h : sc.cursor.In s) {fault : Fault}
    (hfault : (run fuel sc).2 = some fault) : Bears s fault := by
  induction fuel generalizing sc with
  | zero =>
      cases hfault
      exact .token
  | succ fuel ih =>
      unfold run at hfault
      split at hfault
      next heq =>
        cases hfault
        exact (accounts_dropStale h).error heq
      next sc' heq =>
        have h := (accounts_dropStale h).ok heq
        split at hfault
        next heq =>
          cases hfault
          exact (accounts_next h).error heq
        next => cases hfault
        next heq => exact ih ((accounts_next h).ok heq) hfault

end Scanner

/-- So it is for the tokens of a text as a whole. -/
theorem bears_of_tokens {fault : Fault} (h : (tokens s).2 = some fault) :
    Bears s fault := by
  refine Scanner.bears_of_run _ (?_ : Cursor.In _ s) h
  unfold Scanner.start Cursor.start Cursor.In
  dsimp only
  split
  · exact List.drop_suffix 1 s
  · exact List.suffix_refl s

end Toolsmith.Yaml
