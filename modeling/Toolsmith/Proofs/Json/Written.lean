/-
Which values can be written as JSON on one line, and what the text is made
of. A value has a JSON form exactly if everything in it has, down to the
keys of its mappings; the text of one that has is ASCII, since every other
character is written as an escape.
-/
import Toolsmith.Json.Writer
import Toolsmith.Proofs.Steps
import Toolsmith.Proofs.Value.Surrogates

namespace Toolsmith.Json

open Text

-- ============================================================ JSON forms

/-- The key of an entry that JSON can hold: a text, `null`, a truth value, a
double, or an integer that is not too wide. -/
def HasKey : Value → Prop
  | .text _ | .null | .bool _ | .float _ => True
  | .int n => Number.isWritable n = true
  | _ => False

/-- JSON can hold the value: there are no bytes, days, moments, sets or loops
in it, its integers are not too wide, and its keys are keys of JSON. -/
inductive HasForm : Value → Prop where
  | null : HasForm .null
  | bool (b : Bool) : HasForm (.bool b)
  | int {n : Int} (h : Number.isWritable n = true) : HasForm (.int n)
  | float (x : Binary64) : HasForm (.float x)
  | text (s : String) : HasForm (.text s)
  | pair {a b : Value} (ha : HasForm a) (hb : HasForm b) :
      HasForm (.pair a b)
  | list {items : List Value} (h : ∀ v ∈ items, HasForm v) :
      HasForm (.list items)
  | map {entries : List (Value × Value)}
      (hkeys : ∀ e ∈ entries, HasKey e.1)
      (h : ∀ e ∈ entries, HasForm e.2) :
      HasForm (.map entries)

-- ============================================================== scalars

/-- A text is always written on one line. -/
theorem styledText_line (s : List Char) :
    styledText .line s = .ok (stringText true s) := by
  unfold styledText
  split <;> rfl

/-- An integer is written on one line unless it is too wide. -/
theorem styledInteger_line (n : Int) :
    (∃ s, styledInteger .line n = .ok s)
      ↔ Number.isWritable n = true := by
  have hstyle : Style.line.octets = false := rfl
  rw [styledInteger, hstyle, Bool.false_or]
  split
  next h => exact ⟨fun _ => h, fun _ => ⟨_, rfl⟩⟩
  next h => exact ⟨fun ⟨_, hs⟩ => (by cases hs), fun hn => absurd hn h⟩

/-- A key is written on one line if JSON has it. -/
theorem keyText_line (k : Value) :
    (∃ s, keyText .line k = .ok s) ↔ HasKey k := by
  cases k with
  | int n => exact styledInteger_line n
  | null | bool | float | text => exact ⟨fun _ => trivial, fun _ => ⟨_, rfl⟩⟩
  | _ => exact ⟨fun ⟨_, hs⟩ => (by cases hs), fun h => h.elim⟩

/-- Nothing is too deep for one line. -/
theorem writeAt_line (depth : Nat) (v : Value) :
    writeAt .line depth v =
      match v with
      | .null => .ok "null".toList
      | .bool b => .ok (boolText b)
      | .int n => styledInteger .line n
      | .float x => .ok (floatText .line x)
      | .text s => .ok (stringText true s.toList)
      | .bytes _ => .error (.value .bytes)
      | .date _ => .error (.value .date)
      | .moment _ => .error (.value .moment)
      | .set _ => .error (.value .set)
      | .loop _ _ => .error .circular
      | .pair a b => do
        let first ← writeAt .line (depth + 1) a
        let second ← writeAt .line (depth + 1) b
        return bracketed .line depth '[' ']' [first, second]
      | .list items => do
        return bracketed .line depth '[' ']'
          (← writeItems .line (depth + 1) items)
      | .map entries => do
        return bracketed .line depth '\x7b' '\x7d'
          (← writeEntries .line (depth + 1) entries) := by
  have hdeep : isTooDeep .line depth = false := rfl
  cases v <;>
    simp only [writeAt, hdeep, Bool.false_eq_true, if_false, styledText_line]

-- =============================================================== values

mutual

/-- A value is written on one line exactly if JSON can hold it. -/
theorem writeAt_line_ok (v : Value) (depth : Nat) :
    (∃ s, writeAt .line depth v = .ok s) ↔ HasForm v := by
  rw [writeAt_line]
  cases v with
  | null => exact ⟨fun _ => .null, fun _ => ⟨_, rfl⟩⟩
  | bool b => exact ⟨fun _ => .bool b, fun _ => ⟨_, rfl⟩⟩
  | float x => exact ⟨fun _ => .float x, fun _ => ⟨_, rfl⟩⟩
  | text s => exact ⟨fun _ => .text s, fun _ => ⟨_, rfl⟩⟩
  | int n =>
      refine (styledInteger_line n).trans ⟨.int, fun h => ?_⟩
      cases h with
      | int h => exact h
  | pair a b =>
      have ha := writeAt_line_ok a (depth + 1)
      have hb := writeAt_line_ok b (depth + 1)
      constructor
      · rintro ⟨s, h⟩
        obtain ⟨first, hfirst, h⟩ := Steps.bind_eq_ok.mp h
        obtain ⟨second, hsecond, _⟩ := Steps.bind_eq_ok.mp h
        exact .pair (ha.mp ⟨first, hfirst⟩) (hb.mp ⟨second, hsecond⟩)
      · intro h
        cases h with
        | pair hforma hformb =>
            obtain ⟨first, hfirst⟩ := ha.mpr hforma
            obtain ⟨second, hsecond⟩ := hb.mpr hformb
            dsimp only
            rw [hfirst, hsecond]
            exact ⟨_, rfl⟩
  | list items =>
      have hitems := writeItems_line_ok items (depth + 1)
      constructor
      · rintro ⟨s, h⟩
        obtain ⟨parts, hparts, _⟩ := Steps.bind_eq_ok.mp h
        exact .list (hitems.mp ⟨parts, hparts⟩)
      · intro h
        cases h with
        | list h =>
            obtain ⟨parts, hparts⟩ := hitems.mpr h
            dsimp only
            rw [hparts]
            exact ⟨_, rfl⟩
  | map entries =>
      have hentries := writeEntries_line_ok entries (depth + 1)
      constructor
      · rintro ⟨s, h⟩
        obtain ⟨parts, hparts, _⟩ := Steps.bind_eq_ok.mp h
        have hall := hentries.mp ⟨parts, hparts⟩
        exact .map (fun e he => (hall e he).1) (fun e he => (hall e he).2)
      · intro h
        cases h with
        | map hkeys h =>
            obtain ⟨parts, hparts⟩ :=
              hentries.mpr fun e he => ⟨hkeys e he, h e he⟩
            dsimp only
            rw [hparts]
            exact ⟨_, rfl⟩
  | _ => exact ⟨fun ⟨_, hs⟩ => (by cases hs), fun h => (by cases h)⟩

/-- The same for the values of a list. -/
theorem writeItems_line_ok (items : List Value) (depth : Nat) :
    (∃ parts, writeItems .line depth items = .ok parts)
      ↔ ∀ v ∈ items, HasForm v := by
  cases items with
  | nil => exact ⟨fun _ v hv => (by cases hv), fun _ => ⟨_, rfl⟩⟩
  | cons v rest =>
      have hv := writeAt_line_ok v depth
      have hrest := writeItems_line_ok rest depth
      rw [writeItems, List.forall_mem_cons]
      constructor
      · rintro ⟨parts, h⟩
        obtain ⟨first, hfirst, h⟩ := Steps.bind_eq_ok.mp h
        obtain ⟨more, hmore, _⟩ := Steps.bind_eq_ok.mp h
        exact ⟨hv.mp ⟨first, hfirst⟩, hrest.mp ⟨more, hmore⟩⟩
      · rintro ⟨hform, hforms⟩
        obtain ⟨first, hfirst⟩ := hv.mpr hform
        obtain ⟨more, hmore⟩ := hrest.mpr hforms
        rw [hfirst, hmore]
        exact ⟨_, rfl⟩

/-- The same for entries. -/
theorem writeEntries_line_ok (entries : List (Value × Value))
    (depth : Nat) :
    (∃ parts, writeEntries .line depth entries = .ok parts)
      ↔ ∀ e ∈ entries, HasKey e.1 ∧ HasForm e.2 := by
  match entries with
  | [] => exact ⟨fun _ e he => (by cases he), fun _ => ⟨_, rfl⟩⟩
  | (k, v) :: rest =>
      have hk := keyText_line k
      have hv := writeAt_line_ok v depth
      have hrest := writeEntries_line_ok rest depth
      rw [writeEntries, List.forall_mem_cons]
      constructor
      · rintro ⟨parts, h⟩
        obtain ⟨key, hkey, h⟩ := Steps.bind_eq_ok.mp h
        obtain ⟨name, _, h⟩ := Steps.bind_eq_ok.mp h
        obtain ⟨value, hvalue, h⟩ := Steps.bind_eq_ok.mp h
        obtain ⟨more, hmore, _⟩ := Steps.bind_eq_ok.mp h
        exact ⟨⟨hk.mp ⟨key, hkey⟩, hv.mp ⟨value, hvalue⟩⟩,
          hrest.mp ⟨more, hmore⟩⟩
      · rintro ⟨⟨hhaskey, hform⟩, hforms⟩
        obtain ⟨key, hkey⟩ := hk.mpr hhaskey
        obtain ⟨value, hvalue⟩ := hv.mpr hform
        obtain ⟨more, hmore⟩ := hrest.mpr hforms
        rw [hkey, hvalue, hmore]
        have hname := styledText_line key
        exact ⟨_, Steps.bind_eq_ok.mpr ⟨key, rfl,
          Steps.bind_eq_ok.mpr ⟨_, hname, rfl⟩⟩⟩

end

/-- A value is written as JSON on one line exactly if JSON can hold it. -/
theorem write_line_ok {v : Value} :
    (∃ s, write .line v = .ok s) ↔ HasForm v :=
  writeAt_line_ok v 0

-- ================================================================= ASCII

/-- The escapes of a code point are visible. -/
theorem visible_codeUnits (n : Nat) : Visible (codeUnits n) := by
  have hunit : ∀ n, Visible (unitEscape n) := fun n =>
    visible_cons.mpr ⟨by decide, visible_cons.mpr
      ⟨by decide, visible_hexText 4 n⟩⟩
  unfold codeUnits
  split
  · exact hunit n
  · exact visible_append.mpr ⟨hunit _, hunit _⟩

/-- In an ASCII string every character beyond ASCII is an escape. -/
theorem visible_stringText (s : List Char) :
    Visible (stringText true s) := by
  have hchar : ∀ c, Visible (stringChar true c) := by
    intro c
    unfold stringChar
    split; · decide
    split; · decide
    split; · decide
    split; · decide
    split; · decide
    split; · decide
    split; · decide
    split
    · exact visible_codeUnits _
    next hplain =>
      refine visible_cons.mpr ⟨?_, visible_nil⟩
      simp only [Bool.true_and, Bool.or_eq_true, decide_eq_true_eq] at hplain
      simp only [isVisible, Bool.and_eq_true, decide_eq_true_eq]
      omega
  refine visible_append.mpr ⟨visible_cons.mpr ⟨by decide, ?_⟩, by decide⟩
  intro c hc
  obtain ⟨x, _, hc⟩ := List.mem_flatMap.mp hc
  exact hchar x c hc

theorem visible_floatText (x : Binary64) : Visible (floatText .line x) := by
  cases x with
  | nan => decide
  | infinity negative => cases negative <;> decide
  | finite negative mantissa exponent =>
      exact visible_finiteText Number.Layout.plain negative mantissa exponent

theorem visible_of_styledInteger {n : Int} {s : List Char}
    (h : styledInteger .line n = .ok s) : Visible s := by
  unfold styledInteger at h
  split at h
  · cases h
    exact visible_integerText n
  · cases h

/-- Members in brackets on one line. -/
theorem visible_bracketed {depth : Nat} {opening closing : Char}
    {members : List (List Char)} (hopening : isVisible opening = true)
    (hclosing : isVisible closing = true)
    (h : ∀ part ∈ members, Visible part) :
    Visible (bracketed .line depth opening closing members) := by
  have hclose : Visible [closing] :=
    visible_cons.mpr ⟨hclosing, visible_nil⟩
  have hcomma : Visible (separator .line (depth + 1)) := by
    show Visible ", ".toList
    decide
  unfold bracketed
  split
  · exact visible_cons.mpr ⟨hopening, hclose⟩
  · exact visible_append.mpr ⟨visible_append.mpr ⟨visible_append.mpr
      ⟨visible_cons.mpr ⟨hopening, visible_nil⟩,
        forall_mem_join hcomma h⟩, visible_nil⟩, hclose⟩

/-- The text of a key, as a string. -/
theorem visible_of_styledText {s t : List Char}
    (h : styledText .line s = .ok t) : Visible t := by
  rw [styledText_line] at h
  cases h
  exact visible_stringText s

mutual

/-- A value on one line is visible: without breaks, zeros and lone
surrogates. -/
theorem visible_of_writeAt {v : Value} {depth : Nat} {s : List Char}
    (h : writeAt .line depth v = .ok s) : Visible s := by
  rw [writeAt_line] at h
  cases v with
  | null => cases h; decide
  | bool b => cases h; cases b <;> decide
  | float x => cases h; exact visible_floatText x
  | text s => cases h; exact visible_stringText s.toList
  | int n => exact visible_of_styledInteger h
  | pair a b =>
      obtain ⟨first, hfirst, h⟩ := Steps.bind_eq_ok.mp h
      obtain ⟨second, hsecond, h⟩ := Steps.bind_eq_ok.mp h
      cases h
      have ha := visible_of_writeAt hfirst
      have hb := visible_of_writeAt hsecond
      exact visible_bracketed (by decide) (by decide)
        (List.forall_mem_cons.mpr ⟨ha, List.forall_mem_singleton.mpr hb⟩)
  | list items =>
      obtain ⟨parts, hparts, h⟩ := Steps.bind_eq_ok.mp h
      cases h
      exact visible_bracketed (by decide) (by decide)
        (visible_of_writeItems hparts)
  | map entries =>
      obtain ⟨parts, hparts, h⟩ := Steps.bind_eq_ok.mp h
      cases h
      exact visible_bracketed (by decide) (by decide)
        (visible_of_writeEntries hparts)
  | _ => cases h

/-- The same for the values of a list. -/
theorem visible_of_writeItems {items : List Value} {depth : Nat}
    {parts : List (List Char)}
    (h : writeItems .line depth items = .ok parts) :
    ∀ part ∈ parts, Visible part := by
  match items with
  | [] =>
      cases h
      intro part hpart
      cases hpart
  | v :: rest =>
      rw [writeItems] at h
      obtain ⟨first, hfirst, h⟩ := Steps.bind_eq_ok.mp h
      obtain ⟨more, hmore, h⟩ := Steps.bind_eq_ok.mp h
      cases h
      exact List.forall_mem_cons.mpr
        ⟨visible_of_writeAt hfirst, visible_of_writeItems hmore⟩

/-- The same for entries. -/
theorem visible_of_writeEntries {entries : List (Value × Value)}
    {depth : Nat} {parts : List (List Char)}
    (h : writeEntries .line depth entries = .ok parts) :
    ∀ part ∈ parts, Visible part := by
  match entries with
  | [] =>
      cases h
      intro part hpart
      cases hpart
  | (k, v) :: rest =>
      rw [writeEntries] at h
      obtain ⟨key, _, h⟩ := Steps.bind_eq_ok.mp h
      obtain ⟨name, hname, h⟩ := Steps.bind_eq_ok.mp h
      obtain ⟨value, hvalue, h⟩ := Steps.bind_eq_ok.mp h
      obtain ⟨more, hmore, h⟩ := Steps.bind_eq_ok.mp h
      cases h
      refine List.forall_mem_cons.mpr ⟨?_, visible_of_writeEntries hmore⟩
      exact visible_append.mpr ⟨visible_append.mpr
        ⟨visible_of_styledText hname, by decide⟩,
        visible_of_writeAt hvalue⟩

end

end Toolsmith.Json
