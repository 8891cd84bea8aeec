/-
What the JSON reader makes, JSON can hold again: its integers are as long as
an integer may be written, its keys are texts, and there is nothing in it
that only another notation has.
-/
import Mathlib.Algebra.Group.Nat.Defs
import Toolsmith.Proofs.Json.Limits
import Toolsmith.Proofs.Json.Written

namespace Toolsmith.Json

open Text

-- ============================================================= integers

/-- So many digits make a number of no more digits. -/
theorem ofDigits_lt {digits : List Nat} (h : ∀ d ∈ digits, d < 10) :
    Number.ofDigits 10 digits < 10 ^ digits.length := by
  -- Along the fold, the number so far stays below its power of ten.
  have hfold : ∀ (ds : List Nat) (n k : Nat), (∀ d ∈ ds, d < 10) →
      n < 10 ^ k →
      ds.foldl (fun n d => n * 10 + d) n < 10 ^ (k + ds.length) := by
    intro ds
    induction ds with
    | nil => intro n k _ hn; exact hn
    | cons d rest ih =>
        intro n k hds hn
        obtain ⟨hd, hrest⟩ := List.forall_mem_cons.mp hds
        have hstep : n * 10 + d < 10 ^ (k + 1) := by
          rw [Nat.pow_succ]
          omega
        have hmore := ih (n * 10 + d) (k + 1) hrest hstep
        rw [List.foldl_cons, List.length_cons]
        rw [Nat.add_assoc, Nat.add_comm 1] at hmore
        exact hmore
  have hall := hfold digits 0 0 h (by decide)
  rw [Nat.zero_add] at hall
  exact hall

/-- An integer that is read from digits is not too wide to be written. -/
theorem isWritable_of_int? {ds : List Char} (hne : ds ≠ [])
    (h : ∀ c ∈ ds, isAsciiDigit c = true) {negative : Bool} {n : Int}
    (hn : Number.int? 10 ((if negative then ['-'] else []) ++ ds) = .ok n) :
    Number.isWritable n = true := by
  rw [Number.int?_ascii hne h] at hn
  split at hn
  · cases hn
  next hshort =>
    cases hn
    have hvalues : ∀ d ∈ ds.map Number.asciiValue, d < 10 := by
      intro d hd
      obtain ⟨c, hc, rfl⟩ := List.mem_map.mp hd
      have hrange := Number.range_of_isAsciiDigit (h c hc)
      simp only [Number.asciiValue]
      omega
    have hlt := ofDigits_lt hvalues
    rw [List.length_map] at hlt
    have hpow : 10 ^ ds.length ≤ 10 ^ Number.digitLimit :=
      Nat.pow_le_pow_right (by decide) (Nat.le_of_not_lt hshort)
    generalize Number.ofDigits 10 (ds.map Number.asciiValue) = value at *
    have habs : (if negative then -(value : Int) else value).natAbs
        = value := by
      split <;> omega
    rw [Number.isWritable, habs, decide_eq_true_eq]
    exact Nat.lt_of_lt_of_le hlt hpow

-- ============================================================== entries

/-- Entries of JSON: a text and a value that JSON can hold. -/
def IsEntry (e : Value × Value) : Prop :=
  HasKey e.1 ∧ HasForm e.2

/-- Inserting an entry of JSON leaves entries of JSON. -/
theorem isEntry_insertEntry {key value : Value}
    {entries : List (Value × Value)} (hentry : IsEntry (key, value))
    (h : ∀ e ∈ entries, IsEntry e) :
    ∀ e ∈ Value.insertEntry key value entries, IsEntry e := by
  induction entries with
  | nil => exact List.forall_mem_singleton.mpr hentry
  | cons e rest ih =>
      obtain ⟨he, hrest⟩ := List.forall_mem_cons.mp h
      rw [Value.insertEntry]
      split
      · exact List.forall_mem_cons.mpr ⟨⟨he.1, hentry.2⟩, hrest⟩
      · exact List.forall_mem_cons.mpr ⟨he, ih hrest⟩

/-- A mapping of entries of JSON. -/
theorem hasForm_ofEntries {entries : List (Value × Value)}
    (h : ∀ e ∈ entries, IsEntry e) : HasForm (.ofEntries entries) := by
  have hfold : ∀ (more made : List (Value × Value)),
      (∀ e ∈ more, IsEntry e) → (∀ e ∈ made, IsEntry e) →
      ∀ e ∈ more.foldl (fun es e => Value.insertEntry e.1 e.2 es) made,
        IsEntry e := by
    intro more
    induction more with
    | nil => intro made _ hmade; exact hmade
    | cons e rest ih =>
        intro made hmore hmade
        obtain ⟨he, hrest⟩ := List.forall_mem_cons.mp hmore
        exact ih _ hrest (isEntry_insertEntry he hmade)
  have hall := hfold entries [] h (fun e he => by cases he)
  exact .map (fun e he => (hall e he).1) (fun e he => (hall e he).2)

-- =============================================================== reading

/-- A number that is read can be written. -/
theorem hasForm_of_readNumber {cur next : Cursor} {v : Value}
    (h : readNumber cur = .ok (v, next)) : HasForm v := by
  rcases readNumber_cases cur with ⟨cause, hrun⟩ | ⟨x, size, hrun⟩
    | ⟨negative, whole, size, hne, _, hdigits, hrun⟩
  · rw [hrun] at h
    cases h
  · rw [hrun] at h
    cases h
    exact .float x
  · rw [hrun] at h
    split at h
    next n hn =>
      cases h
      exact .int (isWritable_of_int? hne hdigits hn)
    · cases h

/-- A word or a number that is read can be written. -/
theorem hasForm_of_readScalar {cur next : Cursor} {v : Value}
    (h : readScalar cur = .ok (v, next)) : HasForm v := by
  rw [readScalar] at h
  split at h
  next w word hfind =>
    cases h
    have hmem := List.mem_of_find?_eq_some hfind
    simp only [words, List.mem_cons, Prod.mk.injEq, List.not_mem_nil,
      or_false] at hmem
    rcases hmem with ⟨_, rfl⟩ | ⟨_, rfl⟩ | ⟨_, rfl⟩ | ⟨_, rfl⟩ | ⟨_, rfl⟩
      | ⟨_, rfl⟩
    · exact .null
    · exact .bool true
    · exact .bool false
    · exact .float _
    · exact .float _
    · exact .float _
  · exact hasForm_of_readNumber h

/-- Values, items and entries that are read can be written. -/
theorem hasForm_of_readValue (fuel : Nat) :
    (∀ {room cur v next}, readValue fuel room cur = .ok (v, next) →
        HasForm v)
      ∧ (∀ {room cur items next},
          readItems fuel room cur = .ok (items, next) →
          ∀ v ∈ items, HasForm v)
      ∧ ∀ {room cur entries next},
          readEntries fuel room cur = .ok (entries, next) →
          ∀ e ∈ entries, IsEntry e := by
  induction fuel with
  | zero =>
      refine ⟨?_, ?_, ?_⟩ <;> (intro room cur made next h; cases h)
  | succ fuel ih =>
      obtain ⟨hvalue, hitems, hentries⟩ := ih
      refine ⟨?_, ?_, ?_⟩
      · intro room cur v next h
        rw [readValue] at h
        split at h
        · obtain ⟨made, _, h⟩ := Steps.bind_eq_ok.mp h
          cases h
          exact .text _
        · split at h
          · cases h
          dsimp only at h
          split at h
          · cases h
            exact .list fun v hv => by cases hv
          · obtain ⟨made, hmade, h⟩ := Steps.bind_eq_ok.mp h
            cases h
            exact .list (hitems hmade)
        · split at h
          · cases h
          dsimp only at h
          split at h
          · cases h
            exact .map (fun e he => by cases he) (fun e he => by cases he)
          · obtain ⟨made, hmade, h⟩ := Steps.bind_eq_ok.mp h
            cases h
            exact hasForm_ofEntries (hentries hmade)
        · exact hasForm_of_readScalar h
      · intro room cur items next h
        rw [readItems] at h
        obtain ⟨⟨v, after⟩, hv, h⟩ := Steps.bind_eq_ok.mp h
        have hform : HasForm v := hvalue hv
        dsimp only at h
        split at h
        · cases h
          exact List.forall_mem_singleton.mpr hform
        · obtain ⟨⟨more, last⟩, hmore, h⟩ := Steps.bind_eq_ok.mp h
          cases h
          exact List.forall_mem_cons.mpr ⟨hform, hitems hmore⟩
        · cases h
      · intro room cur entries next h
        rw [readEntries] at h
        split at h
        · obtain ⟨⟨key, colon⟩, _, h⟩ := Steps.bind_eq_ok.mp h
          dsimp only at h
          split at h
          · cases h
          obtain ⟨⟨v, after⟩, hv, h⟩ := Steps.bind_eq_ok.mp h
          have hentry : IsEntry (.text (String.ofList key), v) :=
            ⟨trivial, hvalue hv⟩
          dsimp only at h
          split at h
          · cases h
            exact List.forall_mem_singleton.mpr hentry
          · obtain ⟨⟨more, last⟩, hmore, h⟩ := Steps.bind_eq_ok.mp h
            cases h
            exact List.forall_mem_cons.mpr ⟨hentry, hentries hmore⟩
          · cases h
        · cases h

/-- What the reader makes can be written. -/
theorem hasForm_of_read {s : List Char} {v : Value} (h : read s = .ok v) :
    HasForm v := by
  rw [read] at h
  split at h
  · cases h
  obtain ⟨made, hmade, h⟩ := Steps.bind_eq_ok.mp h
  dsimp only at h
  split at h
  · cases h
    exact (hasForm_of_readValue _).1 hmade
  · cases h

/-- What stands under a key of a mapping that JSON can hold, it can hold. -/
theorem hasForm_of_entry? {entries : List (Value × Value)}
    {name : String} {v : Value} (h : HasForm (.map entries))
    (hv : Value.entry? name entries = some v) : HasForm v := by
  cases h with
  | map hkeys hforms =>
      unfold Value.entry? Value.find? at hv
      obtain ⟨found, hfound, rfl⟩ := Option.map_eq_some_iff.mp hv
      exact hforms found (List.mem_of_find?_eq_some hfound)

end Toolsmith.Json
