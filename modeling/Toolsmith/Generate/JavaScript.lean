/-
The JavaScript source of a tool server. Every value stands in the source as
a JSON literal; ids and handler names stand in it as they are.
-/
import Toolsmith.Generate.Comment
import Toolsmith.Generate.Tool

namespace Toolsmith.Generate.JavaScript

/-- A text as a literal. -/
def quoted (s : String) : List Char := Json.stringText true s.toList

-- ========================================================= fixed parts

/-- The lines between the head comment and the base URL. -/
def imports : List String :=
  [" */",
   "",
   "import \x7b Server \x7d from '@modelcontextprotocol/sdk/server/index.js';",
   "import \x7b StdioServerTransport \x7d from '@modelcontextprotocol/sdk/server/stdio.js';",
   "import \x7b",
   "  CallToolRequestSchema,",
   "  ListToolsRequestSchema,",
   "\x7d from '@modelcontextprotocol/sdk/types.js';",
   ""]

/-- The lines between the server's version and the declarations. -/
def capabilities : List String :=
  ["  \x7d,",
   "  \x7b",
   "    capabilities: \x7b",
   "      tools: \x7b\x7d,",
   "    \x7d,",
   "  \x7d",
   ");",
   "",
   "// Tool definitions"]

/-- The lines between the dispatch table and the list of tools. -/
def listing : List String :=
  ["\x7d;",
   "",
   "server.setRequestHandler(ListToolsRequestSchema, async () => \x7b",
   "  return \x7b",
   "    tools: ["]

/-- The lines between the list of tools and the handlers: the answers to
the two kinds of request and the function that calls the API. -/
def dispatch : List String :=
  ["    ],",
   "  \x7d;",
   "\x7d);",
   "",
   "server.setRequestHandler(CallToolRequestSchema, async (request) => \x7b",
   "  const \x7b name, arguments: args \x7d = request.params;",
   "  const handler = HANDLERS[name];",
   "  if (!handler) \x7b",
   "    throw new Error(\x60Unknown tool: $\x7bname\x7d\x60);",
   "  \x7d",
   "  return await handler(args || \x7b\x7d);",
   "\x7d);",
   "",
   "async function callApi(toolName, method, url, body) \x7b",
   "  try \x7b",
   "    const options = \x7b method, headers: HEADERS \x7d;",
   "    if (body !== undefined) \x7b",
   "      options.body = JSON.stringify(body);",
   "    \x7d",
   "",
   "    const response = await fetch(url, options);",
   "    const raw = await response.text();",
   "    let data;",
   "    try \x7b",
   "      data = JSON.parse(raw);",
   "    \x7d catch \x7b",
   "      data = raw;",
   "    \x7d",
   "",
   "    return \x7b",
   "      content: [\x7b",
   "        type: 'text',",
   "        text: JSON.stringify(\x7b",
   "          status: response.status,",
   "          statusText: response.statusText,",
   "          data: data,",
   "        \x7d, null, 2),",
   "      \x7d],",
   "    \x7d;",
   "  \x7d catch (error) \x7b",
   "    return \x7b",
   "      content: [\x7b",
   "        type: 'text',",
   "        text: \x60Error calling $\x7btoolName\x7d: $\x7berror.message\x7d\x60,",
   "      \x7d],",
   "      isError: true,",
   "    \x7d;",
   "  \x7d",
   "\x7d"]

/-- The lines of a handler that put the query behind the URL. -/
def queryEnd : List String :=
  ["  if (query.toString()) \x7b",
   "    url += '?' + query.toString();",
   "  \x7d",
   ""]

/-- The lines that start the server. -/
def start : List String :=
  ["",
   "async function main() \x7b",
   "  const transport = new StdioServerTransport();",
   "  await server.connect(transport);"]

/-- The lines that run the server. -/
def run : List String :=
  ["\x7d",
   "",
   "main().catch((error) => \x7b",
   "  console.error('Server error:', error);",
   "  process.exit(1);",
   "\x7d);"]

-- ============================================================= sections

/-- The head: the comment with the name and the description, the imports,
and the constants. -/
def head (s : Server) : Lines :=
  fixed ["#!/usr/bin/env node", "", "/**"]
    ++ [" * MCP Server for ".toList ++ defused s.name.toList]
    ++ fixed [" * Generated from Swagger/OpenAPI specification", " *"]
    ++ [comment " * ".toList s.description.toList]
    ++ fixed imports
    ++ ["const BASE_URL = process.env.API_BASE_URL || ".toList
          ++ quoted s.baseUrl ++ [';']]
    ++ fixed ["const HEADERS = \x7b", "  'Content-Type': 'application/json',"]
    ++ ["  'User-Agent': ".toList ++ quoted userAgent ++ [',']]
    ++ fixed ["\x7d;", "", "const server = new Server(", "  \x7b"]
    ++ ["    name: ".toList ++ quoted (packageName s) ++ [','],
        "    version: ".toList ++ quoted s.version ++ [',']]
    ++ fixed capabilities

/-- The declaration of a tool. -/
def declaration (t : Tool) : Lines :=
  ["const ".toList ++ t.key.toList ++ "_tool = \x7b".toList,
   "  name: ".toList ++ quoted t.name ++ [','],
   "  description: ".toList ++ quoted t.description ++ [','],
   "  inputSchema: ".toList ++ t.schema.json ++ [','],
   "\x7d;".toList,
   []]

/-- The entry of a tool in the dispatch table. -/
def entry (t : Tool) : List Char :=
  "  ".toList ++ quoted t.name ++ ": ".toList ++ t.handler.toList ++ [',']

/-- The entry of a tool in the list of tools. -/
def listed (t : Tool) : List Char :=
  "      ".toList ++ t.key.toList ++ "_tool,".toList

/-- The statement that fills a parameter into the URL. -/
def fill (name : String) : List Char :=
  "  url = url.replace(".toList ++ quoted (braced name)
    ++ ", String(args[".toList ++ quoted name ++ "]));".toList

/-- The statements that put a parameter into the query. -/
def ask (name : String) : Lines :=
  ["  if (args[".toList ++ quoted name ++ "] !== undefined) \x7b".toList,
   "    query.append(".toList ++ quoted name ++ ", String(args[".toList
     ++ quoted name ++ "]));".toList,
   "  \x7d".toList]

/-- The handler of a tool. -/
def handler (t : Tool) : Lines :=
  [[],
   "// ".toList ++ t.method.toList ++ ' ' :: t.path.toList,
   "async function ".toList ++ t.handler.toList ++ "(args) \x7b".toList,
   "  let url = BASE_URL + ".toList ++ quoted t.path ++ [';']]
    ++ t.pathParams.map fill
    ++ fixed ["", "  const query = new URLSearchParams();"]
    ++ t.queryParams.flatMap ask
    ++ fixed queryEnd
    ++ ["  return await callApi(".toList ++ quoted t.name ++ ", ".toList
          ++ quoted t.method ++ ", url, ".toList
          ++ (if t.sendsBody then "args.body" else "undefined").toList
          ++ ");".toList,
        ['\x7d']]

/-- The lines of the source. -/
def lines (s : Server) : Lines :=
  let tools := tools s
  head s
    ++ tools.flatMap declaration
    ++ fixed ["const HANDLERS = \x7b"]
    ++ tools.map entry
    ++ fixed listing
    ++ tools.map listed
    ++ fixed dispatch
    ++ tools.flatMap handler
    ++ fixed start
    ++ ["  console.error(".toList
          ++ quoted (packageName s ++ " MCP server running on stdio")
          ++ ");".toList]
    ++ fixed run

/-- The source. -/
def source (s : Server) : String := render (lines s)

end Toolsmith.Generate.JavaScript
