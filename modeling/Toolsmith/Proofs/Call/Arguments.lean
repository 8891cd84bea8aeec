/-
Which arguments have a text in a request. A collection is written as JSON
and needs a JSON form, anything else stands for itself unless an integer in
it is too wide, and inside a URL a text must not hold a lone surrogate.
-/
import Toolsmith.Call.Engine
import Toolsmith.Proofs.Json.Decoded

namespace Toolsmith.Engine

open Text

-- ============================================================ arguments

/-- An argument is what stands under its name, unless that is `null`. -/
theorem argument?_eq_some_iff {name : String}
    {arguments : List (Value × Value)} {v : Value} :
    argument? name arguments = some v
      ↔ Value.entry? name arguments = some v ∧ v ≠ .null := by
  unfold argument?
  split
  next hnull =>
    rw [hnull]
    refine ⟨fun h => (by cases h), ?_⟩
    rintro ⟨hv, hne⟩
    cases hv
    exact absurd rfl hne
  next hother =>
    refine ⟨fun h => ⟨h, ?_⟩, fun h => h.1⟩
    rintro rfl
    exact hother h

/-- The argument has a text. -/
def Speakable : Value → Prop
  | .map entries => Json.HasForm (.map entries)
  | .list items => Json.HasForm (.list items)
  | .loop number mapping => Json.HasForm (.loop number mapping)
  | v => v.isWritable = true

/-- The argument has a text that may stand in a URL. -/
def Placeable (v : Value) : Prop :=
  Speakable v ∧ ∀ s, v = .text s → LoneFree s.toList

/-- A text that is written as JSON, with the fault as a failure. -/
theorem mapError_ok {v : Value} :
    (∃ s, (Json.write .line v).mapError ofWriteFault = .ok s)
      ↔ Json.HasForm v := by
  rw [← Json.write_line_ok]
  cases Json.write .line v with
  | error fault =>
      exact ⟨fun ⟨_, h⟩ => (by cases h), fun ⟨_, h⟩ => (by cases h)⟩
  | ok s => exact ⟨fun _ => ⟨s, rfl⟩, fun _ => ⟨s, rfl⟩⟩

/-- A value stands for itself if its integers can be written. -/
theorem ofDisplay_ok {v : Value} :
    (∃ s, Failure.ofDisplay v = .ok s) ↔ v.isWritable = true := by
  unfold Failure.ofDisplay
  split
  next h => exact ⟨fun _ => h, fun _ => ⟨_, rfl⟩⟩
  next h => exact ⟨fun ⟨_, hs⟩ => (by cases hs), fun hv => absurd hv h⟩

/-- Exactly the speakable arguments have a text. -/
theorem argumentText_ok {v : Value} :
    (∃ s, argumentText v = .ok s) ↔ Speakable v := by
  cases v with
  | map entries => exact mapError_ok
  | list items => exact mapError_ok
  | loop number mapping => exact mapError_ok (v := .loop number mapping)
  | bool b => exact ⟨fun _ => rfl, fun _ => ⟨_, rfl⟩⟩
  | _ => exact ofDisplay_ok

/-- The text of an argument shows a lone surrogate only if it is a text that
holds one. -/
theorem loneFree_of_argumentText {v : Value} {s : List Char}
    (h : argumentText v = .ok s) :
    LoneFree s ↔ ∀ t, v = .text t → LoneFree t.toList := by
  have hjson : ∀ {w : Value},
      (Json.write .line w).mapError ofWriteFault = .ok s → LoneFree s := by
    intro w hw
    cases hwrite : Json.write .line w with
    | error fault =>
        rw [hwrite] at hw
        cases hw
    | ok text =>
        rw [hwrite] at hw
        cases hw
        exact (Json.visible_of_writeAt hwrite).loneFree
  have hdisplay : Failure.ofDisplay v = .ok s → s = v.display := by
    intro hv
    unfold Failure.ofDisplay at hv
    split at hv
    · cases hv
      rfl
    · cases hv
  -- Apart from a text, a value shows no surrogate, so both sides hold.
  have hother : LoneFree s → (∀ t, v ≠ .text t) →
      (LoneFree s ↔ ∀ t, v = .text t → LoneFree t.toList) :=
    fun hs hne => ⟨fun _ t ht => absurd ht (hne t), fun _ => hs⟩
  cases v with
  | text t =>
      rw [hdisplay h]
      exact ⟨fun hs u hu => by cases hu; exact hs, fun hs => hs t rfl⟩
  | map entries => exact hother (hjson h) (fun t ht => by cases ht)
  | list items => exact hother (hjson h) (fun t ht => by cases ht)
  | loop number mapping =>
      exact hother (hjson (w := .loop number mapping) h)
        (fun t ht => by cases ht)
  | bool b =>
      cases h
      exact hother (by cases b <;> decide) (fun t ht => by cases ht)
  | date d =>
      rw [hdisplay h]
      exact ⟨fun _ t ht => (by cases ht), fun _ => d.loneFree_iso⟩
  | moment m =>
      rw [hdisplay h]
      exact ⟨fun _ t ht => (by cases ht), fun _ => m.loneFree_iso⟩
  | _ =>
      refine hother ?_ (fun t ht => by cases ht)
      rw [hdisplay h]
      exact Value.loneFree_literal _

/-- A text without lone surrogates has octets, those of its characters. -/
theorem encode?_eq_ok_iff {s : List Char} {octets : List UInt8} :
    Utf8.encode? s = .ok octets ↔ LoneFree s ∧ octets = Utf8.encode s := by
  rw [← find?_eq_none_iff]
  unfold Utf8.encode?
  cases Lone.find? s with
  | none =>
      refine ⟨fun h => ⟨rfl, (Except.ok.inj h).symm⟩, ?_⟩
      rintro ⟨-, rfl⟩
      rfl
  | some run => exact ⟨fun h => (by cases h), fun h => (by cases h.1)⟩

/-- No other text has any. -/
theorem encode?_ok {s : List Char} :
    (∃ octets, Utf8.encode? s = .ok octets) ↔ LoneFree s := by
  constructor
  · rintro ⟨octets, h⟩
    exact (encode?_eq_ok_iff.mp h).1
  · intro h
    exact ⟨Utf8.encode s, encode?_eq_ok_iff.mpr ⟨h, rfl⟩⟩

/-- The text of an argument inside a URL. -/
def placedText (v : Value) : Except Failure (List Char) := do
  Failure.ofLone (Percent.encode? (← argumentText v))

/-- A component is had from a text without lone surrogates. -/
theorem ofLone_percent_eq_ok_iff {s t : List Char} :
    Failure.ofLone (Percent.encode? s) = .ok t
      ↔ LoneFree s ∧ t = Percent.encode s := by
  rw [← find?_eq_none_iff]
  unfold Percent.encode? Utf8.encode? Failure.ofLone
  cases Lone.find? s with
  | none =>
      refine ⟨fun h => ⟨rfl, (Except.ok.inj h).symm⟩, ?_⟩
      rintro ⟨-, rfl⟩
      rfl
  | some run => exact ⟨fun h => (by cases h), fun h => (by cases h.1)⟩

/-- The text of an argument inside a URL is the component of its own text, if
that has no lone surrogates. -/
theorem placedText_eq_ok_iff {v : Value} {t : List Char} :
    placedText v = .ok t
      ↔ ∃ s, argumentText v = .ok s ∧ LoneFree s ∧ t = Percent.encode s := by
  rw [placedText, Steps.bind_eq_ok]
  simp only [ofLone_percent_eq_ok_iff]

/-- Exactly the placeable arguments have a text inside a URL. -/
theorem placedText_ok {v : Value} :
    (∃ s, placedText v = .ok s) ↔ Placeable v := by
  constructor
  · rintro ⟨t, h⟩
    obtain ⟨s, hs, hfree, -⟩ := placedText_eq_ok_iff.mp h
    exact ⟨argumentText_ok.mp ⟨s, hs⟩, (loneFree_of_argumentText hs).mp hfree⟩
  · rintro ⟨hspeakable, hfree⟩
    obtain ⟨s, hs⟩ := argumentText_ok.mpr hspeakable
    exact ⟨_, placedText_eq_ok_iff.mpr
      ⟨s, hs, (loneFree_of_argumentText hs).mpr hfree, rfl⟩⟩

-- ================================================== arguments from JSON

theorem allWritable_of_forall {items : List Value}
    (h : ∀ v ∈ items, v.isWritable = true) :
    Value.allWritable items = true := by
  induction items with
  | nil => rfl
  | cons v rest ih =>
      obtain ⟨hv, hrest⟩ := List.forall_mem_cons.mp h
      rw [Value.allWritable, hv, ih hrest]
      rfl

theorem entriesWritable_of_forall {entries : List (Value × Value)}
    (h : ∀ e ∈ entries, e.1.isWritable = true ∧ e.2.isWritable = true) :
    Value.entriesWritable entries = true := by
  induction entries with
  | nil => rfl
  | cons e rest ih =>
      obtain ⟨⟨hk, hv⟩, hrest⟩ := List.forall_mem_cons.mp h
      obtain ⟨k, v⟩ := e
      rw [Value.entriesWritable, hk, hv, ih hrest]
      rfl

/-- What JSON can hold has no integer that is too wide. -/
theorem isWritable_of_hasForm {v : Value} (h : Json.HasForm v) :
    v.isWritable = true := by
  induction h with
  | null | bool | float | text => rfl
  | int h => exact h
  | pair _ _ iha ihb =>
      rw [Value.isWritable, iha, ihb]
      rfl
  | list _ ih => exact allWritable_of_forall ih
  | @map entries hkeys _ ih =>
      refine entriesWritable_of_forall fun e he => ⟨?_, ih e he⟩
      have hkey := hkeys e he
      cases hk : e.1 with
      | int n =>
          rw [hk] at hkey
          exact hkey
      | text | null | bool | float => rfl
      | _ =>
          rw [hk] at hkey
          exact hkey.elim

/-- Every argument that JSON can hold is speakable. -/
theorem speakable_of_hasForm {v : Value} (h : Json.HasForm v) :
    Speakable v := by
  cases v with
  | map entries => exact h
  | list items => exact h
  | loop number mapping => exact h
  | _ => exact isWritable_of_hasForm h

end Toolsmith.Engine
