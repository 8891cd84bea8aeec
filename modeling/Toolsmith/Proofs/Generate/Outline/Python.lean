/-
What a Python source says at its top level. Rows of comments say nothing, if the
title and the paths stay on them, and the body of a function is left out. So the
names that the source binds are those of the template and one for each handler.
-/
import Toolsmith.Proofs.Generate.Comment
import Toolsmith.Proofs.Generate.Outline.Tools

namespace Toolsmith.Generate.Python

open Outline
open Text

-- a text is gone through by one reduction, as deep as the text is long
set_option maxRecDepth 8000

variable {k : Tool}

theorem quotes_quoted (s : String) :
    ∃ body, Quotes .python (quoted s) body :=
  ⟨_, quotes_literalText s.toList⟩

-- ============================================================= comments

/-- A row that is a comment says nothing. -/
theorem says_comment {s : List Char}
    (h : ∀ c ∈ s, isBreak .python c = false) :
    Says .python (top .python) ('#' :: (s ++ ['\n'])) silent := by
  have hrow : Reads .python (top .python) ('#' :: s) ((top .python).enter .row)
      [] :=
    .quiet rfl (reads_row h)
  have hend : Reads .python ((top .python).enter .row) ['\n'] (top .python)
      [⟨.mark '\n', 0⟩] := rfl
  exact ⟨_, hrow.append hend, complete_of_getLast? rfl, rfl⟩

theorem isBreak_of_isLineBreak {c : Char} (h : isLineBreak c = false) :
    isBreak .python c = false := by
  have hother : ∀ d, isLineBreak d = true → (c == d) = false := fun d hd =>
    beq_eq_false_iff_ne.mpr (ne_of_apply_ne isLineBreak (by simp [h, hd]))
  unfold isBreak
  rw [hother '\n' (by decide), hother '\r' (by decide)]
  rfl

/-- The title stays on its row, without carriage returns. -/
theorem says_title {s : List Char} (h : '\r' ∉ s) :
    Says .python (top .python)
      ("# MCP Server for ".toList ++ replace ['\n'] [' '] s ++ ['\n'])
      silent := by
  have hfixed : ∀ c ∈ " MCP Server for ".toList,
      isBreak .python c = false :=
    forall_of_check rfl
  have htitle : ∀ c ∈ replace ['\n'] [' '] s, isBreak .python c = false := by
    rw [replace_singleton]
    intro c hc
    obtain ⟨d, hd, rfl⟩ := List.mem_map.mp hc
    split
    · decide
    next hfeed =>
      have hreturn : d ≠ '\r' := by
        rintro rfl
        exact h hd
      simp [isBreak, hreturn, by simpa using hfeed]
  have hall := says_comment (List.forall_mem_append.mpr ⟨hfixed, htitle⟩)
  have hsplit : "# MCP Server for ".toList
      = '#' :: " MCP Server for ".toList := rfl
  rw [hsplit]
  exact hall

/-- The rows of the description say nothing. -/
theorem says_description (s : List Char) :
    Says .python (top .python) (comment "# ".toList s ++ ['\n']) silent := by
  have hlines : ∀ line ∈ commentLines "# ".toList s,
      Says .python (top .python) (line ++ ['\n']) silent := by
    intro line hline
    obtain ⟨part, hstart, -, hpart⟩ := exists_of_mem_commentLines hline
    cases line with
    | nil => exact says_of_check rfl
    | cons c rest =>
        obtain ⟨hc, hrest⟩ := List.cons_prefix_cons.mp hstart
        rw [hc]
        refine says_comment fun d hd => isBreak_of_isLineBreak ?_
        rcases List.mem_cons.mp (hrest.subset hd) with rfl | hd
        · decide
        · exact hpart d hd
  unfold comment
  rw [join_append_break (commentLines_ne_nil _ _)]
  have hall := says_flatMap (· ++ ['\n']) (fun _ => []) hlines
  rwa [List.flatMap_eq_nil_iff.mpr fun _ _ => rfl] at hall

-- ================================================================= head

/-- The names that the head binds. -/
def headNames : List String :=
  ["asyncio", "json", "os", "Any", "httpx", "types", "Server", "stdio_server",
   "BASE_URL", "HEADERS", "server"]

/-- The row with the base URL binds it. -/
theorem says_baseUrl (url : String) :
    Says .python (top .python)
      ("BASE_URL = os.environ.get(\"API_BASE_URL\") or ".toList ++ quoted url
        ++ ['\n']) ⟨["BASE_URL"], []⟩ := by
  obtain ⟨_, hurl⟩ := quotes_quoted url
  have hsplit : "BASE_URL = os.environ.get(\"API_BASE_URL\") or ".toList
      = "BASE_URL = os.".toList
        ++ "environ.get(\"API_BASE_URL\") or ".toList := rfl
  have hstart : Reads .python (top .python) "BASE_URL = os.".toList
      ⟨.code, [], false⟩
      [⟨.word "BASE_URL", 0⟩, ⟨.mark '=', 0⟩, ⟨.word "os", 0⟩,
        ⟨.mark '.', 0⟩] := rfl
  have hbody : Runs .python false ⟨.code, [], false⟩
      "environ.get(\"API_BASE_URL\") or ".toList ⟨.code, [], false⟩ :=
    .of_check rfl
  have hend : Finishes .python ⟨.code, [], false⟩ ['\n'] silent :=
    finishes_of_check rfl
  have hall := says_statement ["BASE_URL"] hstart rfl hbody
    (hend.literal hurl rfl rfl) (fun _ => rfl) (fun _ => rfl)
  rw [append_silent] at hall
  rw [hsplit, List.append_assoc, List.append_assoc]
  exact hall

/-- The constants without a text of the document. -/
theorem says_headers :
    Says .python (top .python)
      (rendered (fixed ["HEADERS = \x7b",
          "    \"Content-Type\": \"application/json\","]
        ++ ["    \"User-Agent\": ".toList ++ quoted userAgent ++ [',']]
        ++ fixed ["\x7d", ""]))
      ⟨["HEADERS"], []⟩ :=
  says_of_check rfl

/-- The row with the server binds it. -/
theorem says_server (s : Server) :
    Says .python (top .python)
      ("server = Server(".toList ++ quoted (packageName s)
        ++ ", version=".toList ++ quoted s.version ++ [')'] ++ ['\n'])
      ⟨["server"], []⟩ := by
  obtain ⟨_, hname⟩ := quotes_quoted (packageName s)
  obtain ⟨_, hversion⟩ := quotes_quoted s.version
  have hstart : Reads .python (top .python) "server = Server(".toList
      ⟨.code, [')'], false⟩
      [⟨.word "server", 0⟩, ⟨.mark '=', 0⟩, ⟨.word "Server", 0⟩,
        ⟨.mark '(', 0⟩] := rfl
  have hcomma : Runs .python false ⟨.code, [')'], false⟩
      ", version=".toList ⟨.code, [')'], false⟩ :=
    .of_check rfl
  have hend : Finishes .python ⟨.code, [')'], false⟩ ([')'] ++ ['\n'])
      silent :=
    finishes_of_check rfl
  have hall := says_statement ["server"] hstart rfl
    (hcomma.literal hname rfl rfl rfl) (hend.literal hversion rfl rfl)
    (fun _ => rfl) (fun _ => rfl)
  rw [append_silent] at hall
  simp only [List.append_assoc] at hall ⊢
  exact hall

/-- The head, up to the list of tools, binds the names of the template. -/
theorem says_head {s : Server} (h : '\r' ∉ s.name.toList) :
    ∃ above, head s = above ++ fixed ["TOOLS = ["]
      ∧ Says .python (top .python) (rendered above) ⟨headNames, []⟩ := by
  have hfirst : Says .python (top .python) "#!/usr/bin/env python3\n".toList
      silent :=
    says_of_check rfl
  have hlines : Says .python (top .python)
      (rendered (fixed ["# Generated from Swagger/OpenAPI specification",
        "#"])) silent :=
    says_of_check rfl
  have himports : Says .python (top .python) (rendered (fixed imports))
      ⟨["asyncio", "json", "os", "Any", "httpx", "types", "Server",
        "stdio_server"], []⟩ :=
    says_of_check rfl
  have hheading : Says .python (top .python)
      (rendered (fixed ["", "# Tool definitions"])) silent :=
    says_of_check rfl
  have hall := (((((((hfirst.append (says_title h)).append hlines).append
    (says_description s.description.toList)).append himports).append
    (says_baseUrl s.baseUrl)).append says_headers).append
    (says_server s)).append hheading
  have hsplit : fixed ["", "# Tool definitions", "TOOLS = ["]
      = fixed ["", "# Tool definitions"] ++ fixed ["TOOLS = ["] := rfl
  unfold head
  rw [hsplit, ← List.append_assoc]
  refine ⟨_, rfl, ?_⟩
  have hbreak : "#!/usr/bin/env python3\n".toList
      = "#!/usr/bin/env python3".toList ++ ['\n'] := rfl
  rw [hbreak] at hall
  simp only [rendered_append, rendered_cons, List.append_assoc,
    List.cons_append, List.nil_append] at hall ⊢
  exact hall

-- =============================================================== tools

/-- The reader in the list of tools. -/
def inList : Reader := ⟨.code, [']'], false⟩

/-- The reader in the declaration of a tool. -/
def inTool : Reader := ⟨.code, [')', ']'], false⟩

/-- A declaration stays in the list of tools. -/
theorem runs_declaration (k : Tool) :
    Runs .python false inList (rendered (declaration k)) inList := by
  obtain ⟨_, hname⟩ := quotes_quoted k.name
  obtain ⟨_, hdescription⟩ := quotes_quoted k.description
  have hopen : Runs .python false inList
      (rendered ["    types.Tool(".toList]) inTool :=
    .of_check rfl
  have hcomma : Runs .python false inTool [','] inTool :=
    .of_check rfl
  have hbreak : Runs .python false inTool ['\n'] inTool :=
    .of_check rfl
  have hrows : Runs .python false inTool
      (rendered ["        name=".toList ++ quoted k.name ++ [','],
        "        description=".toList ++ quoted k.description ++ [','],
        "        inputSchema=".toList ++ k.schema.toValue.literal ++ [',']])
      inTool := by
    refine runs_rendered ?_
    simp only [List.forall_mem_cons, List.not_mem_nil, false_implies,
      implies_true, and_true]
    refine ⟨.append ?_ hbreak, .append ?_ hbreak, .append ?_ hbreak⟩
    · exact .around (.of_check rfl) hname rfl
        rfl rfl hcomma
    · exact .around (.of_check rfl)
        hdescription rfl rfl rfl hcomma
    · rw [List.append_assoc]
      exact .append (.of_check rfl)
        (passes_literal_of_textual k.schema.textual_toValue rfl rfl
          (List.cons_ne_nil _ _) rfl hcomma)
  have hclose : Runs .python false inTool (rendered ["    ),".toList]) inList :=
    .of_check rfl
  have hall := (hopen.append hrows).append hclose
  rwa [← rendered_append, ← rendered_append] at hall

/-- The list of tools is bound. -/
theorem says_tools (tools : List Tool) :
    Says .python (top .python)
      (rendered (fixed ["TOOLS = ["] ++ tools.flatMap declaration
        ++ fixed (caller.take 1))) ⟨["TOOLS"], []⟩ := by
  have hstart : Reads .python (top .python) (rendered (fixed ["TOOLS = ["]))
      inList [⟨.word "TOOLS", 0⟩, ⟨.mark '=', 0⟩, ⟨.mark '[', 0⟩] := rfl
  have hbody := runs_flatMap tools fun k _ => runs_declaration k
  have hstop : Finishes .python inList (rendered (fixed (caller.take 1)))
      silent :=
    finishes_of_check rfl
  have hall := says_statement ["TOOLS"] hstart rfl hbody hstop
    (fun _ => rfl) (fun _ => rfl)
  rw [append_silent] at hall
  rw [rendered_append, rendered_append, List.append_assoc]
  exact hall

/-- The function that calls the API is bound. -/
theorem says_caller :
    Says .python (top .python) (rendered (fixed (caller.drop 1)))
      ⟨["_call_api"], []⟩ := by
  refine says_of_check ?_
  -- the kernel is slow to take a literal apart
  simp only [caller, fixed, List.drop_succ_cons, List.drop_zero,
    List.map_cons, List.map_nil]
  repeat rewrite [String.toList_ofList]
  rfl

-- ============================================================= handlers

/-- A row that puts a parameter into the URL. -/
theorem runs_fill (name : String) :
    Runs .python true (top .python) (fill name ++ ['\n']) (top .python) := by
  obtain ⟨_, hbraced⟩ := quotes_quoted (braced name)
  obtain ⟨_, hname⟩ := quotes_quoted name
  have hcall : Runs .python true (top .python) "    url = url.replace(".toList
      ⟨.code, [')'], true⟩ :=
    .of_check rfl
  have hargs : Runs .python true ⟨.code, [')'], true⟩
      ", str(args.get(".toList ⟨.code, [')', ')', ')'], true⟩ :=
    .of_check rfl
  have hend : Runs .python true ⟨.code, [')', ')', ')'], true⟩ ")))".toList
      ⟨.code, [], true⟩ :=
    .of_check rfl
  have hbreak : Runs .python true ⟨.code, [], true⟩ ['\n'] (top .python) :=
    .of_check rfl
  exact .append (.around (.around hcall hbraced rfl rfl rfl hargs) hname rfl
    rfl rfl hend) hbreak

/-- The rows that put a parameter into the query. -/
theorem runs_ask (name : String) :
    Runs .python true (top .python) (rendered (ask name)) (top .python) := by
  obtain ⟨_, hname⟩ := quotes_quoted name
  have hif : Runs .python true (top .python) "    if args.get(".toList
      ⟨.code, [')'], true⟩ :=
    .of_check rfl
  have hthen : Runs .python true ⟨.code, [')'], true⟩
      ") is not None:".toList ⟨.code, [], true⟩ :=
    .of_check rfl
  have hput : Runs .python true (top .python) "        params[".toList
      ⟨.code, [']'], true⟩ :=
    .of_check rfl
  have hargs : Runs .python true ⟨.code, [']'], true⟩
      "] = str(args[".toList ⟨.code, [']', ')'], true⟩ :=
    .of_check rfl
  have hend : Runs .python true ⟨.code, [']', ')'], true⟩ "])".toList
      ⟨.code, [], true⟩ :=
    .of_check rfl
  have hbreak : Runs .python true ⟨.code, [], true⟩ ['\n'] (top .python) :=
    .of_check rfl
  have hhead := (Runs.around hif hname rfl rfl rfl hthen).append hbreak
  have hbody := (Runs.around (.around hput hname rfl rfl rfl hargs) hname rfl
    rfl rfl hend).append hbreak
  have hall := hhead.append hbody
  unfold ask
  simp only [rendered_cons, rendered_nil, List.append_assoc, List.cons_append,
    List.nil_append] at hall ⊢
  exact hall

/-- The row that calls the API. -/
theorem runs_call (k : Tool) :
    Runs .python true (top .python)
      ("    return await _call_api(".toList ++ quoted k.name
        ++ ", ".toList ++ quoted k.method ++ ", url, params".toList
        ++ (if k.sendsBody then ", args.get(\"body\")" else "").toList
        ++ [')'] ++ ['\n']) (top .python) := by
  obtain ⟨_, hname⟩ := quotes_quoted k.name
  obtain ⟨_, hmethod⟩ := quotes_quoted k.method
  have hcall : Runs .python true (top .python)
      "    return await _call_api(".toList ⟨.code, [')'], true⟩ :=
    .of_check rfl
  have hcomma : Runs .python true ⟨.code, [')'], true⟩ ", ".toList
      ⟨.code, [')'], true⟩ :=
    .of_check rfl
  have hend : Runs .python true ⟨.code, [')'], true⟩
      (", url, params".toList
        ++ (if k.sendsBody then ", args.get(\"body\")" else "").toList
        ++ [')'] ++ ['\n']) (top .python) := by
    cases k.sendsBody <;> exact .of_check rfl
  have hrow := Runs.around (.around hcall hname rfl rfl rfl hcomma) hmethod rfl
    rfl (by cases k.sendsBody <;> rfl) hend
  simp only [List.append_assoc] at hrow ⊢
  exact hrow

/-- The rows over a handler: two blank ones, and the comment with its method and
its path. -/
def heading (k : Tool) : Lines :=
  [[], [], "# ".toList ++ k.method.toList ++ ' ' :: k.path.toList]

/-- A comment that stays on its row says nothing. -/
theorem says_heading (hmethod : ∀ c ∈ k.method.toList,
      isBreak .python c = false)
    (hpath : ∀ c ∈ k.path.toList, isBreak .python c = false) :
    Says .python (top .python) (rendered (heading k)) silent := by
  have hblank : Says .python (top .python) ['\n', '\n'] silent :=
    says_of_check rfl
  have hrow : ∀ c ∈ ' ' :: (k.method.toList ++ ' ' :: k.path.toList),
      isBreak .python c = false :=
    List.forall_mem_cons.mpr ⟨by decide, List.forall_mem_append.mpr
      ⟨hmethod, List.forall_mem_cons.mpr ⟨by decide, hpath⟩⟩⟩
  have hall := hblank.append (says_comment hrow)
  have hsplit : "# ".toList = ['#', ' '] := rfl
  unfold heading
  rw [hsplit]
  simp only [rendered_cons, rendered_nil, List.append_assoc, List.cons_append,
    List.nil_append] at hall ⊢
  exact hall

/-- A handler is bound to its name, behind what its heading says. -/
theorem says_handler (hk : k.IsNamed) {said : List String}
    (hheading : Says .python (top .python) (rendered (heading k))
      ⟨said, []⟩) :
    Says .python (top .python) (rendered (handler k))
      ⟨said ++ [k.handler], []⟩ := by
  obtain ⟨_, hpath⟩ := quotes_quoted k.path
  have hdef : Reads .python (top .python) "async def ".toList
      ⟨.code, [], false⟩ [⟨.word "async", 0⟩, ⟨.word "def", 0⟩] := rfl
  have hopen : Reads .python ⟨.code, [], false⟩ "(".toList
      ⟨.code, [')'], false⟩ [⟨.mark '(', 0⟩] := rfl
  have hstart := reads_named hdef rfl hk.handler rfl hopen
  have hparams : Runs .python false ⟨.code, [')'], false⟩
      "args: dict[str, Any]) -> list[types.TextContent]:".toList
      ⟨.code, [], false⟩ :=
    .of_check rfl
  have hbreak : Finishes .python ⟨.code, [], false⟩ ['\n'] silent :=
    finishes_of_check rfl
  have hheader := says_statement [k.handler] hstart rfl hparams
    hbreak (fun _ => rfl) (fun _ => rfl)
  have hurl : Runs .python true (top .python) "    url = BASE_URL + ".toList
      ⟨.code, [], true⟩ :=
    .of_check rfl
  have hend : Runs .python true ⟨.code, [], true⟩ ['\n'] (top .python) :=
    .of_check rfl
  have hfills := runs_map k.pathParams fun name _ => runs_fill name
  have hasks := runs_flatMap k.queryParams fun name _ =>
    runs_ask name
  have hparamsRow : Says .python (top .python)
      (rendered (fixed ["", "    params: dict[str, str] = \x7b\x7d"])) silent :=
    says_of_check rfl
  have hblank : Says .python (top .python) ['\n'] silent :=
    says_of_check rfl
  have hbody := ((((says_of_runs
    ((Runs.around hurl hpath rfl rfl rfl hend).append hfills)).append
    hparamsRow).append (says_of_runs hasks)).append hblank).append
    (says_of_runs (runs_call k))
  have hall := hheading.append (hheader.append hbody)
  unfold heading at hall
  have hsplit : "(args: dict[str, Any]) -> list[types.TextContent]:".toList
      = "(".toList
        ++ "args: dict[str, Any]) -> list[types.TextContent]:".toList := rfl
  unfold handler
  rw [hsplit]
  simp only [rendered_cons, rendered_append, rendered_nil, append_silent,
    List.append_assoc, List.cons_append, List.nil_append] at hall ⊢
  exact hall

-- =============================================================== source

variable {tools : List Tool}

/-- The dispatch table has an entry for each tool. -/
theorem says_handlers (h : ∀ k ∈ tools, k.IsNamed) :
    Says .python (top .python)
      (rendered (fixed ["", "", "HANDLERS = \x7b"] ++ tools.map entry
        ++ fixed (run.take 1)))
      ⟨["HANDLERS"], [tools.map Tool.entry]⟩ := by
  have hblank : Says .python (top .python) (rendered (fixed ["", ""]))
      silent :=
    says_of_check rfl
  have hstart : Reads .python (top .python)
      (rendered (fixed ["HANDLERS = \x7b"])) inBraces
      [⟨.word "HANDLERS", 0⟩, ⟨.mark '=', 0⟩, ⟨.mark '\x7b', 0⟩] := rfl
  have hlead : Reads .python inBraces "    ".toList inBraces [] := rfl
  have hstop : Closes .python inBraces (rendered (fixed (run.take 1)))
      [⟨.mark '\x7d', 0⟩, ⟨.mark '\n', 0⟩] silent :=
    closes_of_check rfl
  have hentries := reads_entries entry fun k hk =>
    reads_entry (h k hk) hlead (quotes_literalText_name
      (Naming.all_isNameChar_of_isIdentifier (h k hk).name))
  have htable := says_table hstart rfl hentries hstop (fun _ => rfl)
    (fun _ => rfl)
  have hall := hblank.append htable
  have hsplit : fixed ["", "", "HANDLERS = \x7b"]
      = fixed ["", ""] ++ fixed ["HANDLERS = \x7b"] := rfl
  rw [hsplit]
  simp only [rendered_append, List.append_assoc] at hall ⊢
  exact hall

/-- The answers to the two kinds of request and the function that runs the
server are bound. -/
theorem says_run :
    Says .python (top .python) (rendered (fixed (run.drop 1)))
      ⟨["list_tools", "call_tool", "main"], []⟩ := by
  refine says_of_check ?_
  -- the kernel is slow to take a literal apart
  simp only [run, fixed, List.drop_succ_cons, List.drop_zero,
    List.map_cons, List.map_nil]
  repeat rewrite [String.toList_ofList]
  rfl

/-- The names that a source binds: those of the template around the handlers of
its tools, each behind what its heading says. -/
def topNames (said : Tool → List String) (tools : List Tool) : List String :=
  headNames ++ ["TOOLS", "_call_api"]
    ++ tools.flatMap (fun k => said k ++ [k.handler])
    ++ ["HANDLERS", "list_tools", "call_tool", "main"]

/-- A source binds these names, and has one dispatch table, with an entry for
each tool. -/
theorem says_source {s : Server} {said : Tool → List String}
    (htitle : '\r' ∉ s.name.toList) (h : ∀ k ∈ Generate.tools s, k.IsNamed)
    (hsaid : ∀ k ∈ Generate.tools s,
      Says .python (top .python) (rendered (heading k)) ⟨said k, []⟩) :
    Says .python ⟨.start, [], false⟩ (source s).toList
      ⟨topNames said (Generate.tools s),
        [(Generate.tools s).map Tool.entry]⟩ := by
  obtain ⟨above, hhead, habove⟩ := says_head htitle
  have hfunctions := says_flatMap (fun k => rendered (handler k))
    (fun k => said k ++ [k.handler])
    fun k hk => says_handler (h k hk) (hsaid k hk)
  have hall := ((((habove.append (says_tools (Generate.tools s))).append
    says_caller).append hfunctions).append (says_handlers h)).append says_run
  have hcaller : fixed caller
      = fixed (caller.take 1) ++ fixed (caller.drop 1) := rfl
  have hrun : fixed run = fixed (run.take 1) ++ fixed (run.drop 1) := rfl
  unfold source
  rw [toList_render]
  unfold lines
  dsimp only
  rw [hhead, hcaller, hrun]
  simp only [rendered_append, rendered_flatMap, List.append_assoc] at hall ⊢
  simp only [append, List.append_nil, List.nil_append] at hall
  simp only [topNames, List.append_assoc, List.cons_append,
    List.nil_append] at hall ⊢
  exact hall

end Toolsmith.Generate.Python
