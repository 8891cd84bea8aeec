/-
What the sources in both languages share: lines with a break behind each, a
literal in the middle of a line, and the entries of the dispatch table.
-/
import Toolsmith.Proofs.Generate.Outline.Literals
import Toolsmith.Proofs.Generate.Outline.Statements

namespace Toolsmith.Generate

open Naming (isIdentifier)
open Outline
open Text

variable {t : Target} {i : Bool} {r r' r'' : Reader}

-- =============================================================== lines

/-- Lines with a break behind each. -/
def rendered (lines : Lines) : List Char := lines.flatMap (· ++ ['\n'])

theorem toList_render (lines : Lines) :
    (render lines).toList = rendered lines := String.toList_ofList

@[simp]
theorem rendered_nil : rendered [] = [] := rfl

@[simp]
theorem rendered_cons (line : List Char) (rest : Lines) :
    rendered (line :: rest) = line ++ ('\n' :: rendered rest) := by
  unfold rendered
  rw [List.flatMap_cons, List.append_assoc]
  rfl

@[simp]
theorem rendered_append (above below : Lines) :
    rendered (above ++ below) = rendered above ++ rendered below :=
  List.flatMap_append

theorem rendered_flatMap {α : Type} (items : List α) (f : α → Lines) :
    rendered (items.flatMap f) = items.flatMap fun a => rendered (f a) :=
  List.flatMap_assoc

/-- Lines that are gone through one by one. -/
theorem runs_rendered {lines : Lines}
    (h : ∀ line ∈ lines, Runs t i r (line ++ ['\n']) r) :
    Runs t i r (rendered lines) r := by
  induction lines with
  | nil => exact .nil
  | cons line rest ih =>
      obtain ⟨hline, hrest⟩ := List.forall_mem_cons.mp h
      exact hline.append (ih hrest)

/-- A line for each item. -/
theorem runs_map {α : Type} (items : List α) {f : α → List Char}
    (h : ∀ a ∈ items, Runs t i r (f a ++ ['\n']) r) :
    Runs t i r (rendered (items.map f)) r :=
  runs_rendered (List.forall_mem_map.mpr h)

/-- Lines for each item. -/
theorem runs_flatMap {α : Type} (items : List α) {f : α → Lines}
    (h : ∀ a ∈ items, Runs t i r (rendered (f a)) r) :
    Runs t i r (rendered (items.flatMap f)) r := by
  induction items with
  | nil => exact .nil
  | cons a rest ih =>
      obtain ⟨ha, hrest⟩ := List.forall_mem_cons.mp h
      rw [List.flatMap_cons, rendered_append]
      exact ha.append (ih hrest)

/-- A literal in the middle of a line. -/
theorem Outline.Runs.around {before s body after : List Char}
    (hbefore : Runs t i r before r') (hs : Quotes t s body)
    (hr : r'.mode = .code) (hi : r'.indented = i)
    (hapart : isApart t after = true) (hafter : Runs t i r' after r'') :
    Runs t i r (before ++ s ++ after) r'' := by
  rw [List.append_assoc]
  exact hbefore.append (hafter.literal hs hr hi hapart)

-- =============================================================== tools

/-- The tool can be named in a source: its key, its handler and its name are
identifiers. -/
structure Tool.IsNamed (k : Tool) : Prop where
  key : isIdentifier k.key.toList = true
  handler : isIdentifier k.handler.toList = true
  name : isIdentifier k.name.toList = true

theorem isWordPart_of_isIdentifier {s : List Char}
    (h : isIdentifier s = true) : ∀ c ∈ s, isWordPart c = true := by
  intro c hc
  unfold isWordPart
  rw [List.all_eq_true.mp (Naming.all_isNameChar_of_isIdentifier h) c hc]
  rfl

theorem ne_nil_of_isIdentifier {s : List Char} (h : isIdentifier s = true) :
    s ≠ [] := by
  rintro rfl
  cases h

/-- The reader in a pair of braces of the top level. -/
def inBraces : Reader := ⟨.code, ['\x7d'], false⟩

/-- The tool as an entry of the dispatch table. -/
def Tool.entry (k : Tool) : String × String := (k.name, k.handler)

/-- A name in the middle of a line. -/
theorem reads_named {before after : List Char} {name : String}
    {p q : List Token} (hbefore : Reads t r before r' p)
    (hr : r'.mode = .code) (hname : isIdentifier name.toList = true)
    (hapart : isApart t after = true) (hafter : Reads t r' after r'' q) :
    Reads t r (before ++ name.toList ++ after) r''
      (p ++ (r'.token (.word name) ++ q)) := by
  have hword := hafter.word (ne_nil_of_isIdentifier hname)
    (isWordPart_of_isIdentifier hname) hr hapart
  rw [String.ofList_toList] at hword
  rw [List.append_assoc]
  exact hbefore.append hword

/-- A line with a name and a handler is an entry. -/
theorem reads_entry {k : Tool} (hk : k.IsNamed) {lead s : List Char}
    (hlead : Reads t inBraces lead inBraces [])
    (hs : Quotes t s k.name.toList) :
    Reads t inBraces
      (lead ++ s ++ ": ".toList ++ k.handler.toList ++ [','] ++ ['\n'])
      inBraces (entryTokens k.entry) := by
  have hend : Reads t inBraces ",\n".toList inBraces [⟨.mark ',', 1⟩] := by
    cases t <;> rfl
  have hcolon : Reads t inBraces ": ".toList inBraces [⟨.mark ':', 1⟩] := by
    cases t <;> rfl
  have hhandler := reads_named hcolon rfl hk.handler (by cases t <;> rfl) hend
  have hname := hhandler.literal hs rfl (by cases t <;> rfl)
  have hall := hlead.append hname
  rw [String.ofList_toList, List.append_assoc] at hall
  simp only [List.append_assoc]
  exact hall

/-- Lines with an entry each. -/
theorem reads_entries {tools : List Tool} (line : Tool → List Char)
    (h : ∀ k ∈ tools, Reads t inBraces (line k ++ ['\n']) inBraces
      (entryTokens k.entry)) :
    Reads t inBraces (rendered (tools.map line)) inBraces
      ((tools.map Tool.entry).flatMap entryTokens) := by
  induction tools with
  | nil => exact .nil
  | cons k rest ih =>
      obtain ⟨hk, hrest⟩ := List.forall_mem_cons.mp h
      exact hk.append (ih hrest)

end Toolsmith.Generate
