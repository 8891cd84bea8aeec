/-
The values in a source, as a reader meets them. A text is one literal, whatever
it holds, and the literal of a name is the name in quotes. A schema is made of
texts, lists and mappings only; each of these is read as it is built, a bracket
around members.
-/
import Toolsmith.Proofs.Generate.Outline.Reading
import Toolsmith.Proofs.Json.Written

namespace Toolsmith.Generate.Outline

open Text

variable {t : Target}

-- ================================================================ texts

/-- A JSON string is a literal. -/
theorem quotes_stringText (s : List Char) :
    Quotes t (Json.stringText true s) (s.flatMap (Json.stringChar true)) := by
  have hquote : IsPlainQuote '"' := Or.inl rfl
  have hunit (n : Nat) : Stays t '"' (Json.unitEscape n) :=
    stays_hexEscape hquote 'u' 4 n
  refine .intro hquote (stays_flatMap fun c _ => ?_)
  unfold Json.stringChar
  split; · exact stays_escape hquote _
  split; · exact stays_escape hquote _
  split; · exact stays_escape hquote _
  split; · exact stays_escape hquote _
  split; · exact stays_escape hquote _
  split; · exact stays_escape hquote _
  split; · exact stays_escape hquote _
  split
  · unfold Json.codeUnits
    split
    · exact hunit _
    · exact stays_append (hunit _) (hunit _)
  next hc hslash hfeed hreturn _ _ _ _ =>
    exact stays_singleton hquote (by simpa using hc) (by simpa using hslash)
      (by simpa using hfeed) (by simpa using hreturn)

theorem isPlainQuote_quoteFor (s : List Char) :
    IsPlainQuote (quoteFor s) := by
  unfold quoteFor
  split
  · exact Or.inl rfl
  · exact Or.inr rfl

/-- A text as a program literal is a literal. -/
theorem quotes_literalText (s : List Char) :
    Quotes t (literalText s) (s.flatMap (literalChar (quoteFor s))) := by
  have hquote := isPlainQuote_quoteFor s
  refine .intro hquote (stays_flatMap fun c _ => ?_)
  generalize quoteFor s = quote at hquote
  unfold literalChar
  split; · exact stays_escape hquote _
  split; · exact stays_escape hquote _
  split; · exact stays_escape hquote _
  split; · exact stays_escape hquote _
  split
  next hc _ hfeed hreturn _ =>
    rw [Bool.or_eq_true, not_or] at hc
    exact stays_singleton hquote (by simpa using hc.1) (by simpa using hc.2)
      (by simpa using hfeed) (by simpa using hreturn)
  · unfold codeEscape
    split
    · exact stays_hexEscape hquote _ 2 _
    · split
      · exact stays_hexEscape hquote _ 4 _
      · exact stays_hexEscape hquote _ 8 _

/-- A name stands in a JSON string as it is. -/
theorem quotes_stringText_name {s : List Char}
    (h : s.all isNameChar = true) :
    Quotes t (Json.stringText true s) s := by
  rw [Json.stringText_of_all_isNameChar h]
  exact .intro (Or.inl rfl) (stays_of_all_isNameChar (Or.inl rfl) h)

/-- A name stands in a program literal as it is. -/
theorem quotes_literalText_name {s : List Char}
    (h : s.all isNameChar = true) : Quotes t (literalText s) s := by
  have hother : ∀ c ∈ s, ∀ d, isNameChar d = false → (c == d) = false := by
    intro c hc d hd
    have hname := List.all_eq_true.mp h c hc
    exact beq_eq_false_iff_ne.mpr
      (ne_of_apply_ne isNameChar (by simp [hname, hd]))
  have hquote : quoteFor s = '\'' := by
    unfold quoteFor
    have hnone : s.contains '\'' = false := by
      refine Bool.eq_false_iff.mpr fun hin => ?_
      have hc := hother _ (List.contains_iff_mem.mp hin) '\'' (by decide)
      cases hc
    rw [hnone]
    rfl
  have hchar : ∀ c ∈ s, literalChar '\'' c = [c] := by
    intro c hc
    have hvisible := isVisible_of_isNameChar (List.all_eq_true.mp h c hc)
    have hprintable : isPrintable c = true := by
      unfold isPrintable
      unfold isVisible at hvisible
      rw [Bool.and_eq_true] at hvisible
      dsimp only
      rw [hvisible.1, hvisible.2]
      rfl
    unfold literalChar
    rw [hother c hc '\'' (by decide), hother c hc '\\' (by decide),
      hother c hc '\t' (by decide), hother c hc '\n' (by decide),
      hother c hc '\r' (by decide), hprintable]
    rfl
  have hall : s.flatMap (literalChar '\'') = s := by
    rw [List.flatMap_congr hchar, List.flatMap_singleton']
  unfold literalText
  dsimp only
  rw [hquote, hall]
  exact .intro (Or.inr rfl) (stays_of_all_isNameChar (Or.inr rfl) h)

-- ============================================================== values

/-- The value is made of texts, lists and mappings from texts. -/
inductive Textual : Value → Prop where
  | text (s : String) : Textual (.text s)
  | list {items : List Value} (h : ∀ v ∈ items, Textual v) :
      Textual (.list items)
  | fields {entries : List (String × Value)}
      (h : ∀ e ∈ entries, Textual e.2) : Textual (.ofFields entries)

/-- Members between brackets on one line. -/
theorem passes_bracketed_line {opening closing : Char}
    (hbracket : IsBracket opening closing) {members : List (List Char)}
    (hmembers : ∀ part ∈ members, Passes t part) (depth : Nat) :
    Passes t (Json.bracketed .line depth opening closing members) := by
  have hpasses := passes_bracketed hbracket hmembers
  unfold Json.bracketed
  cases members with
  | nil => exact hpasses
  | cons part others =>
      show Passes t (opening :: join ", ".toList (part :: others)
        ++ [] ++ [closing])
      rw [List.append_nil]
      exact hpasses

/-- The JSON text of the value is read as a value. -/
def WritesValue (t : Target) (v : Value) : Prop :=
  ∀ depth, ∃ text, Json.writeAt .line depth v = .ok text ∧ Passes t text

theorem passes_writeItems {items : List Value} (depth : Nat)
    (h : ∀ v ∈ items, WritesValue t v) :
    ∃ parts, Json.writeItems .line depth items = .ok parts
      ∧ ∀ part ∈ parts, Passes t part := by
  induction items with
  | nil => exact ⟨[], rfl, fun _ hpart => (by cases hpart)⟩
  | cons v rest ih =>
      obtain ⟨hv, hrest⟩ := List.forall_mem_cons.mp h
      obtain ⟨first, hfirst, hpasses⟩ := hv depth
      obtain ⟨more, hmore, hall⟩ := ih hrest
      refine ⟨first :: more, ?_, List.forall_mem_cons.mpr ⟨hpasses, hall⟩⟩
      rw [Json.writeItems, hfirst, hmore]
      rfl

theorem passes_writeEntries {fields : List (String × Value)} (depth : Nat)
    (h : ∀ e ∈ fields, WritesValue t e.2) :
    ∃ parts, Json.writeEntries .line depth
          (fields.map fun (name, v) => (.text name, v)) = .ok parts
      ∧ ∀ part ∈ parts, Passes t part := by
  induction fields with
  | nil => exact ⟨[], rfl, fun _ hpart => (by cases hpart)⟩
  | cons e rest ih =>
      obtain ⟨he, hrest⟩ := List.forall_mem_cons.mp h
      obtain ⟨value, hvalue, hpasses⟩ := he depth
      obtain ⟨more, hmore, hall⟩ := ih hrest
      have hkey : Passes t (Json.stringText true e.1.toList) :=
        passes_literal (quotes_stringText e.1.toList)
      refine ⟨(Json.stringText true e.1.toList ++ ": ".toList ++ value)
        :: more, ?_,
        List.forall_mem_cons.mpr ⟨passes_entry hkey hpasses, hall⟩⟩
      refine Steps.bind_eq_ok.mpr ⟨e.1.toList, rfl, ?_⟩
      rw [Json.styledText_line, hvalue, hmore]
      rfl

/-- The JSON text of such a value is read as a value. -/
theorem writesValue_of_textual {v : Value} (h : Textual v) :
    WritesValue t v := by
  induction h with
  | text s =>
      exact fun depth => ⟨_, Json.writeAt_line depth (.text s),
        passes_literal (quotes_stringText s.toList)⟩
  | list _ ih =>
      intro depth
      obtain ⟨parts, hparts, hall⟩ := passes_writeItems (depth + 1) ih
      rw [Json.writeAt_line]
      dsimp only
      rw [hparts]
      exact ⟨_, rfl, passes_bracketed_line (Or.inl ⟨rfl, rfl⟩) hall depth⟩
  | fields _ ih =>
      intro depth
      obtain ⟨parts, hparts, hall⟩ := passes_writeEntries (depth + 1) ih
      unfold Value.ofFields
      rw [Json.writeAt_line]
      dsimp only
      rw [hparts]
      exact ⟨_, rfl, passes_bracketed_line (Or.inr ⟨rfl, rfl⟩) hall depth⟩

/-- The program text of such a value is read as a value. -/
theorem passes_literal_of_textual {v : Value} (h : Textual v) :
    Passes t v.literal := by
  induction h with
  | text s => exact passes_literal (quotes_literalText s.toList)
  | @list items htextual ih =>
      have hall : ∀ part ∈ Value.literals items, Passes t part := by
        clear htextual
        induction items with
        | nil => exact fun _ hpart => (by cases hpart)
        | cons v rest ihrest =>
            obtain ⟨hv, hrest⟩ := List.forall_mem_cons.mp ih
            exact List.forall_mem_cons.mpr ⟨hv, ihrest hrest⟩
      exact passes_bracketed (Or.inl ⟨rfl, rfl⟩) hall
  | @fields entries htextual ih =>
      have hall : ∀ part ∈ Value.entryLiterals
          (entries.map fun (name, v) => (.text name, v)), Passes t part := by
        clear htextual
        induction entries with
        | nil => exact fun _ hpart => (by cases hpart)
        | cons e rest ihrest =>
            obtain ⟨he, hrest⟩ := List.forall_mem_cons.mp ih
            have hkey : Passes t (literalText e.1.toList) :=
              passes_literal (quotes_literalText e.1.toList)
            exact List.forall_mem_cons.mpr
              ⟨passes_entry hkey he, ihrest hrest⟩
      exact passes_bracketed (Or.inr ⟨rfl, rfl⟩) hall

end Outline

open Outline

namespace Schema

/-- A schema is made of texts, lists and mappings. -/
theorem textual_toValue (s : Schema) : Textual s.toValue := by
  refine .fields ?_
  simp only [List.forall_mem_cons, List.not_mem_nil, false_implies,
    implies_true, and_true]
  refine ⟨.text _, .fields ?_, .list ?_⟩
  · intro e he
    obtain ⟨property, -, rfl⟩ := List.mem_map.mp he
    refine .fields ?_
    simp only [List.forall_mem_cons, List.not_mem_nil, false_implies,
      implies_true, and_true]
    exact ⟨.text _, .text _⟩
  · intro v hv
    obtain ⟨name, -, rfl⟩ := List.mem_map.mp hv
    exact .text name

/-- The JSON text of a schema is read as a value. -/
theorem passes_json {t : Target} (s : Schema) : Passes t s.json := by
  obtain ⟨text, htext, hpasses⟩ :=
    writesValue_of_textual s.textual_toValue (t := t) 0
  unfold json Json.write
  rw [htext]
  exact hpasses

end Schema

end Toolsmith.Generate
