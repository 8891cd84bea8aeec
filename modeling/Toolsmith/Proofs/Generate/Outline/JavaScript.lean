/-
What a JavaScript source says at its top level. The title and the description
stay in the comment at the head, and a path that stays on its row in the comment
of its handler. So all declarations of the source are those of the template: one
for each tool and each handler, and the fixed ones around them.
-/
import Toolsmith.Proofs.Generate.Comment
import Toolsmith.Proofs.Generate.Outline.Tools

namespace Toolsmith.Generate.JavaScript

open Naming (isIdentifier)
open Outline
open Text

-- a text is gone through by one reduction, as deep as the text is long
set_option maxRecDepth 8000

variable {k : Tool}

theorem quotes_quoted (s : String) :
    ∃ body, Quotes .javascript (quoted s) body :=
  ⟨_, quotes_stringText s.toList⟩

-- ================================================================= head

/-- The reader in the comment at the head. -/
def inComment : Reader := ⟨.block, [], false⟩

/-- The title stays in the comment. -/
theorem reads_title (s : List Char) :
    Reads .javascript inComment (defused s ++ ['\n']) inComment [] :=
  reads_block (r := inComment) (not_infix_defused s)

/-- The description stays in the comment. -/
theorem reads_description (s : List Char) :
    Reads .javascript inComment (comment " * ".toList s ++ ['\n']) inComment
      [] := by
  have hlines : ∀ line ∈ commentLines " * ".toList s,
      Reads .javascript inComment (line ++ ['\n']) inComment [] := by
    intro line hline
    obtain ⟨part, hstart, hpart, -⟩ := exists_of_mem_commentLines hline
    refine reads_block (r := inComment) fun hmark => not_infix_defused s ?_
    -- the star in front of the part is followed by a blank
    rcases List.infix_cons_iff.mp (hmark.trans hstart.isInfix) with h | h
    · cases (List.cons_prefix_cons.mp h).1
    rcases List.infix_cons_iff.mp h with h | h
    · cases (List.cons_prefix_cons.mp (List.cons_prefix_cons.mp h).2).1
    rcases List.infix_cons_iff.mp h with h | h
    · cases (List.cons_prefix_cons.mp h).1
    exact h.trans hpart
  unfold comment
  rw [join_append_break (commentLines_ne_nil _ _)]
  generalize commentLines " * ".toList s = all at hlines
  induction all with
  | nil => exact .nil
  | cons line rest ih =>
      obtain ⟨hline, hrest⟩ := List.forall_mem_cons.mp hlines
      exact hline.append (ih hrest)

/-- The names that the head declares. -/
def headNames : List String :=
  ["Server", "StdioServerTransport", "CallToolRequestSchema",
   "ListToolsRequestSchema", "BASE_URL", "HEADERS", "server"]

/-- The row with the base URL declares it. -/
theorem says_baseUrl (url : String) :
    Says .javascript (top .javascript)
      ("const BASE_URL = process.env.API_BASE_URL || ".toList
        ++ quoted url ++ [';'] ++ ['\n']) ⟨["BASE_URL"], []⟩ := by
  obtain ⟨body, hurl⟩ := quotes_quoted url
  have hend : Finishes .javascript (top .javascript) ([';'] ++ ['\n'])
      silent :=
    finishes_of_check rfl
  have hsplit : "const BASE_URL = process.env.API_BASE_URL || ".toList
      = "const BASE_URL = ".toList
        ++ "process.env.API_BASE_URL || ".toList := rfl
  have hstart : Reads .javascript (top .javascript) "const BASE_URL = ".toList
      (top .javascript)
      [⟨.word "const", 0⟩, ⟨.word "BASE_URL", 0⟩, ⟨.mark '=', 0⟩] := rfl
  have hbody : Runs .javascript false (top .javascript)
      "process.env.API_BASE_URL || ".toList (top .javascript) :=
    .of_check rfl
  have hrow := says_statement ["BASE_URL"] hstart (by decide) hbody
    (hend.literal hurl rfl rfl) (fun _ => rfl) (fun _ => rfl)
  rw [append_silent] at hrow
  rw [hsplit, List.append_assoc, List.append_assoc, List.append_assoc]
  exact hrow

/-- The constants without a text of the document. -/
theorem says_headers :
    Says .javascript (top .javascript)
      (rendered (fixed ["const HEADERS = \x7b",
          "  'Content-Type': 'application/json',"]
        ++ ["  'User-Agent': ".toList ++ quoted userAgent ++ [',']]
        ++ fixed ["\x7d;", ""]))
      ⟨["HEADERS"], []⟩ :=
  says_of_check rfl

/-- The reader in the first mapping that the server is made from. -/
def inInfo : Reader := ⟨.code, ['\x7d', ')'], false⟩

/-- The server is declared. -/
theorem says_server (s : Server) :
    Says .javascript (top .javascript)
      (rendered (fixed ["const server = new Server(", "  \x7b"]
        ++ ["    name: ".toList ++ quoted (packageName s) ++ [','],
            "    version: ".toList ++ quoted s.version ++ [',']]
        ++ fixed capabilities))
      ⟨["server"], []⟩ := by
  obtain ⟨_, hname⟩ := quotes_quoted (packageName s)
  obtain ⟨_, hversion⟩ := quotes_quoted s.version
  have hopen : Runs .javascript false (top .javascript)
      "new Server(\n  \x7b\n".toList inInfo :=
    .of_check rfl
  have hend : Runs .javascript false inInfo [','] inInfo :=
    .of_check rfl
  have hbreak : Runs .javascript false inInfo ['\n'] inInfo :=
    .of_check rfl
  have hrows : Runs .javascript false inInfo
      (rendered ["    name: ".toList ++ quoted (packageName s) ++ [','],
        "    version: ".toList ++ quoted s.version ++ [',']]) inInfo := by
    refine runs_rendered (List.forall_mem_cons.mpr
      ⟨.append ?_ hbreak, List.forall_mem_singleton.mpr (.append ?_ hbreak)⟩)
    · exact .around (.of_check rfl) hname rfl
        rfl rfl hend
    · exact .around (.of_check rfl) hversion rfl
        rfl rfl hend
  have hsplit : rendered (fixed ["const server = new Server(", "  \x7b"])
      = "const server = ".toList ++ "new Server(\n  \x7b\n".toList := rfl
  have hstart : Reads .javascript (top .javascript) "const server = ".toList
      (top .javascript)
      [⟨.word "const", 0⟩, ⟨.word "server", 0⟩, ⟨.mark '=', 0⟩] := rfl
  have hstop : Finishes .javascript inInfo (rendered (fixed capabilities))
      silent :=
    finishes_of_check rfl
  have hall := says_statement ["server"] hstart (by decide)
    (hopen.append hrows) hstop (fun _ => rfl) (fun _ => rfl)
  rw [rendered_append, rendered_append, hsplit, List.append_assoc,
    List.append_assoc, ← List.append_assoc _ (rendered _)]
  exact hall

/-- The head declares the names of the template. -/
theorem says_head (s : Server) :
    Says .javascript ⟨.start, [], false⟩ (rendered (head s))
      ⟨headNames, []⟩ := by
  have hopen : Reads .javascript ⟨.start, [], false⟩
      (rendered (fixed ["#!/usr/bin/env node", "", "/**"])
        ++ " * MCP Server for ".toList) inComment [] := rfl
  have hlines : Reads .javascript inComment
      (rendered (fixed [" * Generated from Swagger/OpenAPI specification",
        " *"])) inComment [] := rfl
  have himports : Says .javascript inComment (rendered (fixed imports))
      ⟨["Server", "StdioServerTransport", "CallToolRequestSchema",
        "ListToolsRequestSchema"], []⟩ := by
    refine says_of_check ?_
    -- the kernel is slow to take a literal apart
    simp only [imports, fixed, List.map_cons, List.map_nil]
    repeat rewrite [String.toList_ofList]
    rfl
  have hcomment := ((hopen.append (reads_title s.name.toList)).append
    hlines).append (reads_description s.description.toList)
  have hall := (((himports.append (says_baseUrl s.baseUrl)).append
    says_headers).append (says_server s)).behind hcomment
  have hsplit : fixed ["\x7d;", "", "const server = new Server(", "  \x7b"]
      = fixed ["\x7d;", ""]
        ++ fixed ["const server = new Server(", "  \x7b"] := rfl
  unfold head
  rw [hsplit]
  simp only [rendered_append, rendered_cons, List.append_assoc,
    List.cons_append, List.nil_append] at hall ⊢
  exact hall

-- ======================================================== declarations

/-- Any row in the braces of a statement ends between tokens. -/
theorem runs_break :
    Runs .javascript false inBraces ['\n'] inBraces :=
  .of_check rfl

/-- The constant of a tool. -/
def constant (k : Tool) : String := k.key ++ "_tool"

theorem isIdentifier_constant (hk : k.IsNamed) :
    isIdentifier (constant k).toList = true := by
  rw [constant, String.toList_append]
  exact Naming.isIdentifier_append hk.key (by decide)

/-- The constant of a tool is not the dispatch table. -/
theorem constant_ne_handlers (k : Tool) : constant k ≠ "HANDLERS" := by
  intro h
  have hlast := congrArg (fun s => s.toList.getLast?) h
  rw [constant, String.toList_append, List.getLast?_append] at hlast
  cases hlast

/-- A tool is declared under its key. -/
theorem says_declaration (hk : k.IsNamed) :
    Says .javascript (top .javascript) (rendered (declaration k))
      ⟨[constant k], []⟩ := by
  obtain ⟨_, hname⟩ := quotes_quoted k.name
  obtain ⟨_, hdescription⟩ := quotes_quoted k.description
  have hconst : Reads .javascript (top .javascript) "const ".toList
      (top .javascript) [⟨.word "const", 0⟩] := rfl
  have hopen : Reads .javascript (top .javascript) " = \x7b".toList inBraces
      [⟨.mark '=', 0⟩, ⟨.mark '\x7b', 0⟩] := rfl
  have hstart := reads_named hconst rfl (isIdentifier_constant hk) rfl hopen
  have hcomma : Runs .javascript false inBraces [','] inBraces :=
    .of_check rfl
  have hrows : Runs .javascript false inBraces
      (rendered ["  name: ".toList ++ quoted k.name ++ [','],
        "  description: ".toList ++ quoted k.description ++ [','],
        "  inputSchema: ".toList ++ k.schema.json ++ [',']]) inBraces := by
    refine runs_rendered ?_
    simp only [List.forall_mem_cons, List.not_mem_nil, false_implies,
      implies_true, and_true]
    refine ⟨.append ?_ runs_break, .append ?_ runs_break,
      .append ?_ runs_break⟩
    · exact .around (.of_check rfl) hname rfl
        rfl rfl hcomma
    · exact .around (.of_check rfl)
        hdescription rfl rfl rfl hcomma
    · rw [List.append_assoc]
      exact .append (.of_check rfl)
        (k.schema.passes_json rfl rfl (List.cons_ne_nil _ _) rfl hcomma)
  have hstop : Finishes .javascript inBraces (rendered ["\x7d;".toList, []])
      silent :=
    finishes_of_check rfl
  have hall := says_statement [constant k] hstart rfl
    (runs_break.append hrows) hstop (fun _ => rfl) (fun more => by
      simp [table?, constant_ne_handlers, top, Reader.token])
  have hsplit : "_tool = \x7b".toList
      = "_tool".toList ++ " = \x7b".toList := rfl
  unfold declaration
  rw [hsplit]
  simp only [constant, rendered_cons, String.toList_append, append_silent,
    List.append_assoc, List.cons_append, List.nil_append] at hall ⊢
  exact hall

-- ============================================================= dispatch

variable {tools : List Tool}

/-- The dispatch table has an entry for each tool. -/
theorem says_handlers (h : ∀ k ∈ tools, k.IsNamed) :
    Says .javascript (top .javascript)
      (rendered (fixed ["const HANDLERS = \x7b"] ++ tools.map entry
        ++ fixed (listing.take 2)))
      ⟨["HANDLERS"], [tools.map Tool.entry]⟩ := by
  have hstart : Reads .javascript (top .javascript)
      (rendered (fixed ["const HANDLERS = \x7b"])) inBraces
      [⟨.word "const", 0⟩, ⟨.word "HANDLERS", 0⟩, ⟨.mark '=', 0⟩,
        ⟨.mark '\x7b', 0⟩] := rfl
  have hlead : Reads .javascript inBraces "  ".toList inBraces [] := rfl
  have hstop : Closes .javascript inBraces (rendered (fixed (listing.take 2)))
      [⟨.mark '\x7d', 0⟩] silent :=
    closes_of_check rfl
  have hentries := reads_entries entry fun k hk =>
    reads_entry (h k hk) hlead (quotes_stringText_name
      (Naming.all_isNameChar_of_isIdentifier (h k hk).name))
  have hall := says_table hstart rfl hentries hstop (fun _ => rfl)
    (fun _ => rfl)
  rw [append_silent] at hall
  rw [rendered_append, rendered_append, List.append_assoc]
  exact hall

/-- The reader in the list of tools. -/
def inList : Reader := ⟨.code, [']', '\x7d', '\x7d', ')'], false⟩

/-- The list of tools declares nothing. -/
theorem says_listing (h : ∀ k ∈ tools, k.IsNamed) :
    Says .javascript (top .javascript)
      (rendered (fixed (listing.drop 2) ++ tools.map listed
        ++ fixed (dispatch.take 4))) silent := by
  have hstart : Reads .javascript (top .javascript) "server.".toList
      (top .javascript) [⟨.word "server", 0⟩, ⟨.mark '.', 0⟩] := rfl
  have hsplit : rendered (fixed (listing.drop 2)) = "server.".toList
      ++ (rendered (fixed (listing.drop 2))).drop 7 := rfl
  have hopen : Runs .javascript false (top .javascript)
      ((rendered (fixed (listing.drop 2))).drop 7) inList :=
    .of_check rfl
  have hrows : Runs .javascript false inList (rendered (tools.map listed))
      inList := by
    refine runs_map _ fun k hk => ?_
    have hlead : Runs .javascript false inList "      ".toList inList :=
      .of_check rfl
    have hend : Runs .javascript false inList ",\n".toList inList :=
      .of_check rfl
    have hconstant := isIdentifier_constant (h k hk)
    have hrow := hlead.append (hend.word (ne_nil_of_isIdentifier hconstant)
      (isWordPart_of_isIdentifier hconstant) rfl rfl rfl)
    have htail : "_tool,".toList = "_tool".toList ++ ",".toList := rfl
    unfold listed
    rw [htail]
    rw [constant, String.toList_append] at hrow
    simp only [List.append_assoc] at hrow ⊢
    exact hrow
  have hstop : Finishes .javascript inList (rendered (fixed (dispatch.take 4)))
      silent :=
    finishes_of_check rfl
  have hall := says_statement [] hstart rfl (hopen.append hrows)
    hstop (fun _ => rfl) (fun _ => rfl)
  rw [rendered_append, rendered_append, hsplit, List.append_assoc,
    List.append_assoc, ← List.append_assoc _ (rendered _)]
  exact hall

/-- The answer to a call and the function that calls the API. -/
theorem says_dispatch :
    Says .javascript (top .javascript) (rendered (fixed (dispatch.drop 4)))
      ⟨["callApi"], []⟩ := by
  refine says_of_check ?_
  -- the kernel is slow to take a literal apart
  simp only [dispatch, fixed, List.drop_succ_cons, List.drop_zero,
    List.map_cons, List.map_nil]
  repeat rewrite [String.toList_ofList]
  rfl

-- ============================================================= handlers

/-- A row that puts a parameter into the URL. -/
theorem runs_fill (name : String) :
    Runs .javascript false inBraces (fill name ++ ['\n']) inBraces := by
  obtain ⟨_, hbraced⟩ := quotes_quoted (braced name)
  obtain ⟨_, hname⟩ := quotes_quoted name
  have hcall : Runs .javascript false inBraces "  url = url.replace(".toList
      ⟨.code, [')', '\x7d'], false⟩ :=
    .of_check rfl
  have hargs : Runs .javascript false ⟨.code, [')', '\x7d'], false⟩
      ", String(args[".toList ⟨.code, [']', ')', ')', '\x7d'], false⟩ :=
    .of_check rfl
  have hend : Runs .javascript false ⟨.code, [']', ')', ')', '\x7d'], false⟩
      "]));".toList inBraces :=
    .of_check rfl
  exact .append (.around (.around hcall hbraced rfl rfl rfl hargs) hname rfl
    rfl rfl hend) runs_break

/-- The rows that put a parameter into the query. -/
theorem runs_ask (name : String) :
    Runs .javascript false inBraces (rendered (ask name)) inBraces := by
  obtain ⟨_, hname⟩ := quotes_quoted name
  have hif : Runs .javascript false inBraces "  if (args[".toList
      ⟨.code, [']', ')', '\x7d'], false⟩ :=
    .of_check rfl
  have hthen : Runs .javascript false ⟨.code, [']', ')', '\x7d'], false⟩
      ("] !== undefined) \x7b".toList) ⟨.code, ['\x7d', '\x7d'], false⟩ :=
    .of_check rfl
  have hcall : Runs .javascript false ⟨.code, ['\x7d', '\x7d'], false⟩
      "    query.append(".toList ⟨.code, [')', '\x7d', '\x7d'], false⟩ :=
    .of_check rfl
  have hargs : Runs .javascript false ⟨.code, [')', '\x7d', '\x7d'], false⟩
      ", String(args[".toList
      ⟨.code, [']', ')', ')', '\x7d', '\x7d'], false⟩ :=
    .of_check rfl
  have hend : Runs .javascript false
      ⟨.code, [']', ')', ')', '\x7d', '\x7d'], false⟩ "]));".toList
      ⟨.code, ['\x7d', '\x7d'], false⟩ :=
    .of_check rfl
  have hclose : Runs .javascript false ⟨.code, ['\x7d', '\x7d'], false⟩
      ('\n' :: ("  \x7d".toList ++ ['\n'])) inBraces :=
    .of_check rfl
  have hbreak : Runs .javascript false ⟨.code, ['\x7d', '\x7d'], false⟩
      ['\n'] ⟨.code, ['\x7d', '\x7d'], false⟩ :=
    .of_check rfl
  have hhead := (Runs.around hif hname rfl rfl rfl hthen).append hbreak
  have hbody := Runs.around (.around hcall hname rfl rfl rfl hargs) hname rfl
    rfl rfl hend
  have hall := (hhead.append hbody).append hclose
  unfold ask
  simp only [rendered_cons, rendered_nil, List.append_assoc, List.cons_append,
    List.nil_append] at hall ⊢
  exact hall

/-- The row that calls the API. -/
theorem runs_call (k : Tool) :
    Runs .javascript false inBraces
      ("  return await callApi(".toList ++ quoted k.name ++ ", ".toList
        ++ quoted k.method ++ ", url, ".toList
        ++ (if k.sendsBody then "args.body" else "undefined").toList
        ++ ");".toList ++ ['\n']) inBraces := by
  obtain ⟨_, hname⟩ := quotes_quoted k.name
  obtain ⟨_, hmethod⟩ := quotes_quoted k.method
  have hcall : Runs .javascript false inBraces "  return await callApi(".toList
      ⟨.code, [')', '\x7d'], false⟩ :=
    .of_check rfl
  have hcomma : Runs .javascript false ⟨.code, [')', '\x7d'], false⟩
      ", ".toList ⟨.code, [')', '\x7d'], false⟩ :=
    .of_check rfl
  have hurl : Runs .javascript false ⟨.code, [')', '\x7d'], false⟩
      ", url, ".toList ⟨.code, [')', '\x7d'], false⟩ :=
    .of_check rfl
  have hend : Runs .javascript false ⟨.code, [')', '\x7d'], false⟩
      ((if k.sendsBody then "args.body" else "undefined").toList
        ++ ");".toList) inBraces := by
    cases k.sendsBody <;> exact .of_check rfl
  have hrow := ((Runs.around (.around hcall hname rfl rfl rfl hcomma) hmethod
    rfl rfl rfl hurl).append hend).append runs_break
  simp only [List.append_assoc] at hrow ⊢
  exact hrow

/-- The rows over a handler: a blank one, and the comment with its method and
its path. -/
def heading (k : Tool) : Lines :=
  [[], "// ".toList ++ k.method.toList ++ ' ' :: k.path.toList]

/-- The comment ends with the first row of the path: what is behind that row is
read like the rest of the source. -/
theorem says_heading (first : List Char) {behind : List Char} {o : Outline}
    (hmethod : ∀ c ∈ k.method.toList, isBreak .javascript c = false)
    (hfirst : ∀ c ∈ first, isBreak .javascript c = false)
    (hpath : k.path.toList ++ ['\n'] = first ++ '\n' :: behind)
    (h : Says .javascript (top .javascript) behind o) :
    Says .javascript (top .javascript) (rendered (heading k)) o := by
  have hopen : Reads .javascript (top .javascript) ('\n' :: "// ".toList)
      ((top .javascript).enter .row) [] := rfl
  have hrow : ∀ c ∈ k.method.toList ++ ' ' :: first,
      isBreak .javascript c = false :=
    List.forall_mem_append.mpr
      ⟨hmethod, List.forall_mem_cons.mpr ⟨by decide, hfirst⟩⟩
  have hend : Reads .javascript ((top .javascript).enter .row) ['\n']
      (top .javascript) [] := rfl
  have hall := h.behind ((hopen.append (reads_row hrow)).append hend)
  unfold heading
  simp only [rendered_cons, rendered_nil, List.append_assoc, List.cons_append,
    List.nil_append] at hall ⊢
  rw [hpath]
  exact hall

/-- A handler is declared under its name, behind what its heading says. -/
theorem says_handler (hk : k.IsNamed) {said : List String}
    (hheading : Says .javascript (top .javascript) (rendered (heading k))
      ⟨said, []⟩) :
    Says .javascript (top .javascript) (rendered (handler k))
      ⟨said ++ [k.handler], []⟩ := by
  obtain ⟨_, hpath⟩ := quotes_quoted k.path
  have hfunction : Reads .javascript (top .javascript)
      "async function ".toList (top .javascript)
      [⟨.word "async", 0⟩, ⟨.word "function", 0⟩] := rfl
  have hopen : Reads .javascript (top .javascript) "(args) \x7b".toList
      inBraces
      [⟨.mark '(', 0⟩, ⟨.word "args", 1⟩, ⟨.mark ')', 0⟩,
        ⟨.mark '\x7b', 0⟩] := rfl
  have hstart := reads_named hfunction rfl hk.handler rfl hopen
  have hurl : Runs .javascript false inBraces "  let url = BASE_URL + ".toList
      inBraces :=
    .of_check rfl
  have hend : Runs .javascript false inBraces [';'] inBraces :=
    .of_check rfl
  have hfills := runs_map k.pathParams fun name _ => runs_fill name
  have hquery : Runs .javascript false inBraces
      (rendered (fixed ["", "  const query = new URLSearchParams();"]))
      inBraces :=
    .of_check rfl
  have hasks := runs_flatMap k.queryParams fun name _ =>
    runs_ask name
  have hqueryEnd : Runs .javascript false inBraces (rendered (fixed queryEnd))
      inBraces :=
    .of_check rfl
  have hbody := ((((((runs_break.append
    (.around hurl hpath rfl rfl rfl hend)).append runs_break).append
    hfills).append hquery).append hasks).append hqueryEnd).append (runs_call k)
  have hstop : Finishes .javascript inBraces ("\x7d\n".toList) silent :=
    finishes_of_check rfl
  have hall := hheading.append (says_statement [k.handler] hstart
    rfl hbody hstop (fun _ => rfl) (fun _ => rfl))
  unfold heading at hall
  unfold handler
  simp only [rendered_cons, rendered_append, rendered_nil, append_silent,
    List.append_assoc, List.cons_append, List.nil_append] at hall ⊢
  exact hall

-- =============================================================== source

/-- The function that starts the server is declared. -/
theorem says_start (s : Server) :
    Says .javascript (top .javascript)
      (rendered (fixed start
        ++ ["  console.error(".toList
          ++ quoted (packageName s ++ " MCP server running on stdio")
          ++ ");".toList]
        ++ fixed run))
      ⟨["main"], []⟩ := by
  obtain ⟨_, hready⟩ :=
    quotes_quoted (packageName s ++ " MCP server running on stdio")
  have hsplit : rendered (fixed start) = "\nasync function main(".toList
      ++ (rendered (fixed start)).drop 21 := rfl
  have hstart : Reads .javascript (top .javascript)
      "\nasync function main(".toList ⟨.code, [')'], false⟩
      [⟨.word "async", 0⟩, ⟨.word "function", 0⟩, ⟨.word "main", 0⟩,
        ⟨.mark '(', 0⟩] := rfl
  have hopen : Runs .javascript false ⟨.code, [')'], false⟩
      ((rendered (fixed start)).drop 21) inBraces :=
    .of_check rfl
  have hcall : Runs .javascript false inBraces "  console.error(".toList
      ⟨.code, [')', '\x7d'], false⟩ :=
    .of_check rfl
  have hend : Runs .javascript false ⟨.code, [')', '\x7d'], false⟩
      ");".toList inBraces :=
    .of_check rfl
  have hbody := hopen.append
    ((Runs.around hcall hready rfl rfl rfl hend).append runs_break)
  have hstop : Finishes .javascript inBraces (rendered (fixed run)) silent :=
    finishes_of_check rfl
  have hall := says_statement ["main"] hstart rfl hbody hstop
    (fun _ => rfl) (fun _ => rfl)
  rw [append_silent] at hall
  rw [rendered_append, rendered_append, hsplit, rendered_cons, rendered_nil]
  simp only [List.append_assoc, List.cons_append, List.nil_append] at hall ⊢
  exact hall

/-- The names that a source declares: those of the template around the constants
and the handlers of its tools, each handler behind what its heading says. -/
def topNames (said : Tool → List String) (tools : List Tool) : List String :=
  headNames ++ tools.map constant ++ ["HANDLERS", "callApi"]
    ++ tools.flatMap (fun k => said k ++ [k.handler]) ++ ["main"]

/-- A source declares these names, and has one dispatch table, with an entry for
each tool. -/
theorem says_source {s : Server} {said : Tool → List String}
    (h : ∀ k ∈ Generate.tools s, k.IsNamed)
    (hsaid : ∀ k ∈ Generate.tools s,
      Says .javascript (top .javascript) (rendered (heading k))
        ⟨said k, []⟩) :
    Says .javascript ⟨.start, [], false⟩ (source s).toList
      ⟨topNames said (Generate.tools s),
        [(Generate.tools s).map Tool.entry]⟩ := by
  have hdeclarations := says_flatMap (fun k => rendered (declaration k))
    (fun k => [constant k]) fun k hk => says_declaration (h k hk)
  have hfunctions := says_flatMap (fun k => rendered (handler k))
    (fun k => said k ++ [k.handler])
    fun k hk => says_handler (h k hk) (hsaid k hk)
  have hall := ((((((says_head s).append hdeclarations).append
    (says_handlers h)).append (says_listing h)).append says_dispatch).append
    hfunctions).append (says_start s)
  have hlisting : fixed listing
      = fixed (listing.take 2) ++ fixed (listing.drop 2) := rfl
  have hdispatch : fixed dispatch
      = fixed (dispatch.take 4) ++ fixed (dispatch.drop 4) := rfl
  unfold source
  rw [toList_render]
  unfold lines
  dsimp only
  rw [hlisting, hdispatch]
  simp only [rendered_append, rendered_flatMap, List.append_assoc] at hall ⊢
  simp only [append, silent, ← List.map_eq_flatMap, List.append_nil,
    List.nil_append] at hall
  simp only [topNames, List.append_assoc, List.cons_append,
    List.nil_append] at hall ⊢
  exact hall

end Toolsmith.Generate.JavaScript
