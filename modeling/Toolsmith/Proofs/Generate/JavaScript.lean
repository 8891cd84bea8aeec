/-
Which tools a generated JavaScript source declares. The declarations are
found row by row, so what matters of a line is whether one of its rows opens
a declaration and whether the next one names a tool. Fixed lines do neither,
and a value does not either, since a JSON literal is one row of visible
characters behind the words in front of it. The two places that are no
literals and keep their breaks are the title in the head comment and the
path in front of a handler. They stand behind the mark of a comment, which
covers their first row only; what their other rows declare counts like a
declaration of the server.
-/
import Toolsmith.Generate.Check
import Toolsmith.Proofs.Generate.Callable
import Toolsmith.Proofs.Json.Names
import Toolsmith.Proofs.Steps
import Toolsmith.Proofs.Text.Parts
import Toolsmith.Proofs.Text.Rows

namespace Toolsmith.Generate

open Text

-- ================================================================= rows

/-- The row neither opens the declaration of a tool nor names one. -/
def isInert (row : List Char) : Bool :=
  !opensTool row && (toolName? row).isNone

theorem isInert_intro {row : List Char} (hopens : opensTool row = false)
    (hname : toolName? row = none) : isInert row = true := by
  unfold isInert
  rw [hopens, hname]
  rfl

theorem opensTool_of_isInert {row : List Char} (h : isInert row = true) :
    opensTool row = false :=
  Bool.not_eq_true' _ ▸ (Bool.and_eq_true_iff.mp h).1

theorem toolName?_of_isInert {row : List Char} (h : isInert row = true) :
    toolName? row = none :=
  Option.isNone_iff_eq_none.mp (Bool.and_eq_true_iff.mp h).2

/-- Nothing is declared by a row that opens no declaration. -/
theorem quotedNames_cons {row : List Char} (h : opensTool row = false)
    (below : List (List Char)) :
    quotedNames (row :: below) = quotedNames below := by
  cases below with
  | nil => rfl
  | cons next rest =>
      rw [quotedNames]
      split
      · rw [h]
        rfl
      · rfl

/-- What rows declare does not depend on what is below, if the row right
below them names no tool. -/
theorem quotedNames_append (above : List (List Char)) {next : List Char}
    (h : toolName? next = none) (below : List (List Char)) :
    quotedNames (above ++ next :: below)
      = quotedNames above ++ quotedNames (next :: below) := by
  fun_induction quotedNames above with
  | case1 => rfl
  | case2 row =>
      show quotedNames (row :: next :: below) = _
      rw [quotedNames, h]
      rfl
  | case3 row named rest name hname hopens ih =>
      show quotedNames (row :: named :: (rest ++ next :: below)) = _
      rw [quotedNames, hname]
      dsimp only
      rw [if_pos hopens, ih]
      rfl
  | case4 row named rest name hname hopens ih =>
      show quotedNames (row :: named :: (rest ++ next :: below)) = _
      rw [quotedNames, hname]
      dsimp only
      rw [if_neg hopens]
      exact ih
  | case5 row named rest hname ih =>
      show quotedNames (row :: named :: (rest ++ next :: below)) = _
      rw [quotedNames, hname]
      exact ih

/-- The quoted names that the rows of a text behind its first one
declare. -/
def forged (s : List Char) : List (List Char) :=
  quotedNames (splitAt '\n' s).tail

-- ================================================================ lines

/-- No row of the lines opens a declaration or names a tool. -/
def Inert (lines : Lines) : Prop := ∀ row ∈ rows lines, isInert row = true

theorem inert_append {above below : Lines} (habove : Inert above)
    (hbelow : Inert below) : Inert (above ++ below) := by
  unfold Inert
  rw [rows_append]
  exact List.forall_mem_append.mpr ⟨habove, hbelow⟩

/-- Inert lines above declare nothing. -/
theorem quotedNames_rows_append {lines : Lines} (h : Inert lines)
    (below : List (List Char)) :
    quotedNames (rows lines ++ below) = quotedNames below := by
  unfold Inert at h
  generalize rows lines = above at h
  induction above with
  | nil => rfl
  | cons row rest ih =>
      obtain ⟨hrow, hrest⟩ := List.forall_mem_cons.mp h
      rw [List.cons_append, quotedNames_cons (opensTool_of_isInert hrow),
        ih hrest]

/-- A text in a comment above inert lines declares what its rows behind the
first one declare. -/
theorem quotedNames_comment {mark : List Char} (hmark : '\n' ∉ mark)
    (hopens : ∀ rest, opensTool (mark ++ rest) = false) (s : List Char)
    {lines : Lines} (h : Inert lines) (hne : lines ≠ [])
    (below : List (List Char)) :
    quotedNames (splitAt '\n' (mark ++ s) ++ (rows lines ++ below))
      = forged s ++ quotedNames below := by
  have hbelow := quotedNames_rows_append h below
  have hrows := rows_ne_nil hne
  unfold Inert at h
  generalize rows lines = inert at h hrows hbelow
  cases inert with
  | nil => exact absurd rfl hrows
  | cons row rest =>
      obtain ⟨hrow, -⟩ := List.forall_mem_cons.mp h
      rw [List.cons_append] at hbelow ⊢
      rw [splitAt_append_of_not_mem hmark, List.cons_append,
        quotedNames_cons (hopens _),
        quotedNames_append _ (toolName?_of_isInert hrow), hbelow]
      rfl

/-- Lines without breaks are inert if they are as rows. -/
theorem inert_of_forall {lines : Lines}
    (h : ∀ line ∈ lines, '\n' ∉ line ∧ isInert line = true) :
    Inert lines := by
  unfold Inert
  rw [rows_of_not_mem fun line hline => (h line hline).1]
  exact fun line hline => (h line hline).2

/-- Visible texts have no breaks. -/
theorem not_mem_of_visible {s : List Char} (h : Visible s) : '\n' ∉ s :=
  fun hmem => (by cases h '\n' hmem)

/-- Lines of visible characters are inert if they are as rows. -/
theorem inert_of_visible {lines : Lines}
    (h : ∀ line ∈ lines, Visible line ∧ isInert line = true) :
    Inert lines :=
  inert_of_forall fun line hline =>
    ⟨not_mem_of_visible (h line hline).1, (h line hline).2⟩

/-- The lines of a comment begin with a mark, so they declare nothing. -/
theorem inert_comment (s : List Char) :
    Inert [comment " * ".toList s] := by
  have hlines : ∀ line ∈ commentLines " * ".toList s,
      '\n' ∉ line ∧ isInert line = true := by
    intro line hline
    obtain ⟨part, hpart, rfl⟩ := List.mem_map.mp hline
    have hbreak : '\n' ∉ part := by
      split at hpart
      · rw [List.mem_singleton.mp hpart]
        exact List.not_mem_nil
      · exact not_mem_of_mem_lines _ part hpart
    have hstart := stripRight_isPrefix (" * ".toList ++ part)
    refine ⟨fun hmem => ?_, ?_⟩
    · rcases List.mem_append.mp (hstart.subset hmem) with hmark | hmem
      · exact absurd hmark (by decide)
      · exact hbreak hmem
    · generalize stripRight (" * ".toList ++ part) = row at hstart
      -- at most the blank and the star of the mark decide
      match row, hstart with
      | [], _ => rfl
      | [c], hstart =>
          obtain ⟨hc, -⟩ := List.cons_prefix_cons.mp hstart
          rw [hc]
          rfl
      | c :: d :: rest, hstart =>
          obtain ⟨hc, hstart⟩ := List.cons_prefix_cons.mp hstart
          obtain ⟨hd, -⟩ := List.cons_prefix_cons.mp hstart
          rw [hc, hd]
          rfl
  have hne : commentLines " * ".toList s ≠ [] := by
    unfold commentLines
    dsimp only
    split
    · exact List.cons_ne_nil _ _
    next h =>
      rw [List.isEmpty_iff] at h
      exact fun hnil => h (List.map_eq_nil_iff.mp hnil)
  unfold Inert
  rw [rows_cons, rows_nil, List.append_nil, comment,
    splitAt_join hne fun line hline => (hlines line hline).1]
  exact fun line hline => (hlines line hline).2

-- =============================================================== values

/-- An identifier is visible. -/
theorem visible_of_isIdentifier {s : List Char}
    (h : Naming.isIdentifier s = true) : Visible s := by
  intro c hc
  exact isVisible_of_isNameChar
    (List.all_eq_true.mp (Naming.all_isNameChar_of_isIdentifier h) c hc)

theorem visible_schema (s : Schema) : Visible s.json := by
  unfold Schema.json
  split
  next text htext => exact Json.visible_of_writeAt htext
  next => exact visible_nil

namespace JavaScript

/-- A JSON literal is visible. -/
@[simp]
theorem visible_quoted (s : String) : Visible (quoted s) :=
  Json.visible_stringText s.toList

/-- A line of words, one literal and words. -/
theorem inert_literal {before : List Char} (hbefore : Visible before)
    (hinert : ∀ rest, isInert (before ++ rest) = true) (s : String)
    {after : List Char} (hafter : Visible after) :
    Inert [before ++ quoted s ++ after] := by
  refine inert_of_visible (List.forall_mem_singleton.mpr ⟨?_, ?_⟩)
  · exact visible_append.mpr
      ⟨visible_append.mpr ⟨hbefore, visible_quoted s⟩, hafter⟩
  · rw [List.append_assoc]
    exact hinert _

-- ================================================================= head

theorem inert_imports : Inert (fixed imports) := by
  refine inert_of_forall ?_
  -- the kernel is slow to take a literal apart
  simp only [imports, fixed, List.map_cons, List.map_nil]
  repeat rewrite [String.toList_ofList]
  decide +kernel

/-- The head declares what the title in its comment declares. -/
theorem quotedNames_head (s : Server) (below : List (List Char)) :
    quotedNames (rows (head s) ++ below)
      = forged (defused s.name.toList) ++ quotedNames below := by
  have hinfo (name version : String) :
      Inert ["    name: ".toList ++ quoted name ++ [','],
        "    version: ".toList ++ quoted version ++ [',']] :=
    inert_append (inert_literal (by decide) (fun _ => rfl) name (by decide))
      (inert_literal (by decide) (fun _ => rfl) version (by decide))
  have htitle (s : List Char) :
      rows [" * MCP Server for ".toList ++ s]
        = splitAt '\n' (" * MCP Server for ".toList ++ s) :=
    List.append_nil _
  simp only [head, rows_append, List.append_assoc _ _ below]
  simp only [List.append_assoc (rows _)]
  rw [quotedNames_rows_append (inert_of_forall (by decide +kernel)), htitle,
    quotedNames_comment (by decide) (fun _ => rfl) _
      (inert_of_forall (by decide +kernel)) (by decide),
    quotedNames_rows_append (inert_comment _),
    quotedNames_rows_append inert_imports,
    quotedNames_rows_append
      (inert_literal (by decide) (fun _ => rfl) _ (by decide)),
    quotedNames_rows_append (inert_of_forall (by decide +kernel)),
    quotedNames_rows_append
      (inert_literal (by decide) (fun _ => rfl) _ (by decide)),
    quotedNames_rows_append (inert_of_forall (by decide +kernel)),
    quotedNames_rows_append (hinfo _ _),
    quotedNames_rows_append (inert_of_forall (by decide +kernel))]

-- ======================================================== declarations

/-- The key of a tool with what is behind it opens a declaration. -/
theorem opensTool_key {key : List Char}
    (h : Naming.isIdentifier key = true) :
    opensTool ("const ".toList ++ key ++ "_tool = \x7b".toList) = true := by
  have hafter : after? "const ".toList
      ("const ".toList ++ key ++ "_tool = \x7b".toList)
      = some (key ++ "_tool = \x7b".toList) := rfl
  have hword : ∀ c ∈ key ++ "_tool".toList, isWordChar c = true := by
    refine List.forall_mem_append.mpr
      ⟨fun c hc => ?_, List.all_eq_true.mp rfl⟩
    have hname := List.all_eq_true.mp
      (Naming.all_isNameChar_of_isIdentifier h) c hc
    unfold isWordChar
    rw [hname, Bool.true_or]
  have hsplit : key ++ "_tool = \x7b".toList
      = (key ++ "_tool".toList) ++ " = \x7b".toList := by
    rw [List.append_assoc]
    rfl
  have htake : (key ++ "_tool = \x7b".toList).takeWhile isWordChar
      = key ++ "_tool".toList := by
    rw [hsplit, List.takeWhile_append_of_pos hword]
    exact List.append_nil _
  have hlength : key ≠ [] := by
    rintro rfl
    cases h
  unfold opensTool
  rw [hafter]
  dsimp only
  rw [htake, hsplit, List.drop_left]
  have hsuffix : "_tool".toList.isSuffixOf (key ++ "_tool".toList) = true :=
    List.isSuffixOf_iff_suffix.mpr (List.suffix_append key _)
  have hpositive := List.length_pos_of_ne_nil hlength
  have hlong : "_tool".length < (key ++ "_tool".toList).length := by
    rw [List.length_append]
    show 5 < key.length + 5
    omega
  rw [hsuffix, decide_eq_true hlong]
  rfl

/-- The line with the name of a tool gives its name in quotes. -/
theorem toolName?_quoted (s : String) :
    toolName? ("  name: ".toList ++ quoted s ++ [',']) = some (quoted s) := by
  have hafter : after? "  name: ".toList
      ("  name: ".toList ++ quoted s ++ [',']) = some (quoted s ++ [',']) :=
    rfl
  have hlast : (quoted s).getLast? = some '"' := by
    unfold quoted Json.stringText
    rw [List.getLast?_append]
    rfl
  have hlength : 2 ≤ (quoted s).length := by
    unfold quoted Json.stringText
    simp
  have hhead : (quoted s).head? = some '"' := rfl
  unfold toolName?
  rw [hafter]
  dsimp only [Option.bind_eq_bind, Option.bind_some]
  rw [List.dropLast_concat, List.getLast?_append, hhead, hlast,
    decide_eq_true hlength]
  rfl

/-- A tool as it is declared: its key and its name are identifiers, and its
handler and its method are visible. -/
structure IsDeclared (t : Tool) : Prop where
  key : Naming.isIdentifier t.key.toList = true
  name : Naming.isIdentifier t.name.toList = true
  handler : Visible t.handler.toList
  method : Visible t.method.toList

variable {t : Tool}

/-- The declaration of a tool declares its name. -/
theorem quotedNames_declaration (h : IsDeclared t)
    (below : List (List Char)) :
    quotedNames (rows (declaration t) ++ below)
      = quoted t.name :: quotedNames below := by
  have hkey := visible_of_isIdentifier h.key
  have hvisible : ∀ line ∈ declaration t, Visible line := by
    simp only [declaration, List.forall_mem_cons, visible_append,
      visible_quoted, visible_schema, and_true]
    exact ⟨⟨⟨by decide, hkey⟩, by decide⟩, ⟨by decide, by decide⟩,
      ⟨by decide, by decide⟩, ⟨by decide, by decide⟩, by decide, by decide,
      List.forall_mem_nil _⟩
  rw [rows_of_not_mem fun line hline => not_mem_of_visible (hvisible line hline)]
  show quotedNames (_ :: _ :: _ :: _ :: _ :: _ :: below) = _
  rw [quotedNames, toolName?_quoted]
  dsimp only
  rw [if_pos (opensTool_key h.key)]
  congr 1
  rw [quotedNames_cons rfl, quotedNames_cons rfl, quotedNames_cons rfl,
    quotedNames_cons rfl]

/-- The entry of a tool in the dispatch table declares nothing. -/
theorem inert_entry (h : IsDeclared t) : Inert [entry t] := by
  refine inert_of_visible (List.forall_mem_singleton.mpr ⟨?_, rfl⟩)
  unfold entry
  simp only [visible_append, visible_quoted, and_true]
  exact ⟨⟨⟨by decide, by decide⟩, h.handler⟩, by decide⟩

/-- The entry of a tool in the list of tools declares nothing. -/
theorem inert_listed (h : IsDeclared t) : Inert [listed t] := by
  have hinert : isInert (listed t) = true := by
    unfold listed
    rw [List.append_assoc]
    exact isInert_intro rfl rfl
  refine inert_of_visible (List.forall_mem_singleton.mpr ⟨?_, hinert⟩)
  unfold listed
  simp only [visible_append]
  exact ⟨⟨by decide, visible_of_isIdentifier h.key⟩, by decide⟩

-- ============================================================ handlers

/-- The statement that fills a parameter in declares nothing. -/
theorem inert_fill (name : String) : Inert [fill name] := by
  have hinert : isInert (fill name) = true := by
    unfold fill
    simp only [List.append_assoc]
    exact isInert_intro rfl rfl
  refine inert_of_visible (List.forall_mem_singleton.mpr ⟨?_, hinert⟩)
  unfold fill
  simp only [visible_append, visible_quoted, and_true]
  exact ⟨⟨by decide, by decide⟩, by decide⟩

/-- The statements that put a parameter into the query declare nothing. -/
theorem inert_ask (name : String) : Inert (ask name) := by
  refine inert_of_visible ?_
  simp only [ask, List.forall_mem_cons, visible_append, visible_quoted,
    and_true]
  exact ⟨⟨⟨by decide, by decide⟩, rfl⟩,
    ⟨⟨⟨by decide, by decide⟩, by decide⟩, rfl⟩, ⟨by decide, rfl⟩,
    List.forall_mem_nil _⟩

/-- Lines made of inert ones for each item are inert. -/
theorem inert_flatMap {α : Type} {items : List α} {f : α → Lines}
    (h : ∀ item ∈ items, Inert (f item)) : Inert (items.flatMap f) := by
  unfold Inert
  rw [rows, List.flatMap_assoc]
  intro row hrow
  obtain ⟨item, hitem, hrow⟩ := List.mem_flatMap.mp hrow
  exact h item hitem row hrow

/-- The same with one line for each item. -/
theorem inert_map {α : Type} {items : List α} {f : α → List Char}
    (h : ∀ item ∈ items, Inert [f item]) : Inert (items.map f) := by
  rw [List.map_eq_flatMap]
  exact inert_flatMap h

/-- The handler of a tool declares what the path in its comment
declares. -/
theorem quotedNames_handler (h : IsDeclared t) (below : List (List Char)) :
    quotedNames (rows (handler t) ++ below)
      = forged t.path.toList ++ quotedNames below := by
  have hmark : Visible ("// ".toList ++ t.method.toList ++ [' ']) :=
    visible_append.mpr
      ⟨visible_append.mpr ⟨by decide, h.method⟩, by decide⟩
  have hopens (rest : List Char) : opensTool
      (("// ".toList ++ t.method.toList ++ [' ']) ++ rest) = false := rfl
  have hfunction : Inert ["async function ".toList ++ t.handler.toList
      ++ "(args) \x7b".toList] := by
    refine inert_of_visible (List.forall_mem_singleton.mpr ⟨?_, rfl⟩)
    exact visible_append.mpr
      ⟨visible_append.mpr ⟨by decide, h.handler⟩, by decide⟩
  have hend : Inert ["  return await callApi(".toList ++ quoted t.name
      ++ ", ".toList ++ quoted t.method ++ ", url, ".toList
      ++ (if t.sendsBody then "args.body" else "undefined").toList
      ++ ");".toList] := by
    refine inert_of_visible (List.forall_mem_singleton.mpr ⟨?_, rfl⟩)
    simp only [visible_append, visible_quoted, and_true]
    refine ⟨⟨⟨⟨by decide, by decide⟩, by decide⟩, ?_⟩, by decide⟩
    cases t.sendsBody <;> decide
  have hrows : rows (handler t) ++ below
      = [] :: (splitAt '\n'
          (("// ".toList ++ t.method.toList ++ [' ']) ++ t.path.toList)
        ++ (rows ["async function ".toList ++ t.handler.toList
              ++ "(args) \x7b".toList]
          ++ (rows ["  let url = BASE_URL + ".toList ++ quoted t.path ++ [';']]
          ++ (rows (t.pathParams.map fill)
          ++ (rows (fixed ["", "  const query = new URLSearchParams();"])
          ++ (rows (t.queryParams.flatMap ask)
          ++ (rows (fixed queryEnd)
          ++ (rows ["  return await callApi(".toList ++ quoted t.name
                ++ ", ".toList ++ quoted t.method ++ ", url, ".toList
                ++ (if t.sendsBody then "args.body" else "undefined").toList
                ++ ");".toList]
          ++ (rows [['\x7d']] ++ below))))))))) := by
    simp only [handler, rows_append, rows_cons, rows_nil, List.append_assoc,
      List.append_nil, List.cons_append, List.nil_append]
    rfl
  rw [hrows, quotedNames_cons rfl,
    quotedNames_comment (not_mem_of_visible hmark) hopens _ hfunction
      (List.cons_ne_nil _ _),
    quotedNames_rows_append
      (inert_literal (by decide) (fun _ => rfl) _ (by decide)),
    quotedNames_rows_append (inert_map fun name _ => inert_fill name),
    quotedNames_rows_append (inert_of_forall (by decide)),
    quotedNames_rows_append (inert_flatMap fun name _ => inert_ask name),
    quotedNames_rows_append (inert_of_forall (by decide)),
    quotedNames_rows_append hend,
    quotedNames_rows_append (inert_of_forall (by decide))]

-- ============================================================== source

/-- Parts of a source that one after the other declare something for each
tool. -/
theorem quotedNames_flatMap {tools : List Tool} {f : Tool → Lines}
    {g : Tool → List (List Char)}
    (h : ∀ t ∈ tools, ∀ below,
      quotedNames (rows (f t) ++ below) = g t ++ quotedNames below)
    (below : List (List Char)) :
    quotedNames (rows (tools.flatMap f) ++ below)
      = tools.flatMap g ++ quotedNames below := by
  induction tools with
  | nil => rfl
  | cons t rest ih =>
      obtain ⟨ht, hrest⟩ := List.forall_mem_cons.mp h
      rw [List.flatMap_cons, List.flatMap_cons, rows_append,
        List.append_assoc, ht, ih hrest, List.append_assoc]

theorem inert_dispatch : Inert (fixed dispatch) := by
  refine inert_of_forall ?_
  -- the kernel is slow to take a literal apart
  simp only [dispatch, fixed, List.map_cons, List.map_nil]
  repeat rewrite [String.toList_ofList]
  decide +kernel

/-- A source declares what its title declares, then the name of every tool,
and then what their paths declare. -/
theorem quotedNames_source {s : Server} (h : ∀ t ∈ tools s, IsDeclared t) :
    quotedNames (splitAt '\n' (source s).toList)
      = forged (defused s.name.toList)
        ++ (tools s).map (fun t => quoted t.name)
        ++ (tools s).flatMap (fun t => forged t.path.toList) := by
  have hready : Inert ["  console.error(".toList
      ++ quoted (packageName s ++ " MCP server running on stdio")
      ++ ");".toList] :=
    inert_literal (by decide +kernel) (fun _ => rfl) _ (by decide +kernel)
  unfold source
  rw [splitAt_render]
  simp only [lines, rows_append, List.append_assoc (rows _)]
  rw [quotedNames_head,
    quotedNames_flatMap (g := fun t => [quoted t.name])
      fun t ht below => quotedNames_declaration (h t ht) below,
    quotedNames_rows_append (inert_of_forall (by decide +kernel)),
    quotedNames_rows_append (inert_map fun t ht => inert_entry (h t ht)),
    quotedNames_rows_append (inert_of_forall (by decide +kernel)),
    quotedNames_rows_append (inert_map fun t ht => inert_listed (h t ht)),
    quotedNames_rows_append inert_dispatch,
    quotedNames_flatMap (g := fun t => forged t.path.toList)
      fun t ht below => quotedNames_handler (h t ht) below,
    quotedNames_rows_append (inert_of_forall (by decide +kernel)),
    quotedNames_rows_append hready,
    quotedNames_rows_append (inert_of_forall (by decide +kernel))]
  rw [← List.map_eq_flatMap, List.append_assoc]
  show _ ++ (_ ++ (_ ++ [])) = _
  rw [List.append_nil]

end JavaScript

end Toolsmith.Generate
