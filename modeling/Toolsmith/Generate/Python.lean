/-
The Python source of a tool server. Every value stands in the source as a
literal; ids and handler names stand in it as they are.
-/
import Toolsmith.Generate.Comment
import Toolsmith.Generate.Tool

namespace Toolsmith.Generate.Python

/-- A text as a literal. -/
def quoted (s : String) : List Char := literalText s.toList

-- ========================================================= fixed parts

/-- The lines between the head comment and the base URL. -/
def imports : List String :=
  ["",
   "import asyncio",
   "import json",
   "import os",
   "from typing import Any",
   "",
   "import httpx",
   "import mcp.types as types",
   "from mcp.server import Server",
   "from mcp.server.stdio import stdio_server",
   ""]

/-- The lines between the list of tools and the handlers: the function that
calls the API. -/
def caller : List String :=
  ["]",
   "",
   "",
   "async def _call_api(tool_name: str, method: str, url: str, params: dict[str, str], body: Any = None) -> list[types.TextContent]:",
   "    try:",
   "        content = json.dumps(body) if body is not None else None",
   "        async with httpx.AsyncClient(follow_redirects=True) as client:",
   "            response = await client.request(method, url, params=params, headers=HEADERS, content=content)",
   "        try:",
   "            data = response.json()",
   "        except ValueError:",
   "            data = response.text",
   "        text = json.dumps(",
   "            \x7b\"status\": response.status_code, \"statusText\": response.reason_phrase, \"data\": data\x7d,",
   "            indent=2,",
   "        )",
   "        return [types.TextContent(type=\"text\", text=text)]",
   "    except Exception as error:",
   "        # the server turns a raised error into a CallToolResult with isError=True",
   "        raise RuntimeError(f\"Error calling \x7btool_name\x7d: \x7berror\x7d\") from error"]

/-- The lines behind the dispatch table: the answers to the two kinds of
request, and what runs the server. -/
def run : List String :=
  ["\x7d",
   "",
   "",
   "@server.list_tools()",
   "async def list_tools() -> list[types.Tool]:",
   "    return TOOLS",
   "",
   "",
   "@server.call_tool()",
   "async def call_tool(name: str, arguments: dict[str, Any] | None) -> list[types.TextContent]:",
   "    handler = HANDLERS.get(name)",
   "    if handler is None:",
   "        raise ValueError(f\"Unknown tool: \x7bname\x7d\")",
   "    return await handler(arguments or \x7b\x7d)",
   "",
   "",
   "async def main() -> None:",
   "    async with stdio_server() as (read_stream, write_stream):",
   "        await server.run(read_stream, write_stream, server.create_initialization_options())",
   "",
   "",
   "if __name__ == \"__main__\":",
   "    asyncio.run(main())"]

-- ============================================================= sections

/-- The head: the comment with the name and the description, the imports,
and the constants. -/
def head (s : Server) : Lines :=
  ["#!/usr/bin/env python3".toList,
   "# MCP Server for ".toList ++ Text.replace ['\n'] [' '] s.name.toList]
    ++ fixed ["# Generated from Swagger/OpenAPI specification", "#"]
    ++ [comment "# ".toList s.description.toList]
    ++ fixed imports
    ++ ["BASE_URL = os.environ.get(\"API_BASE_URL\") or ".toList
          ++ quoted s.baseUrl]
    ++ fixed ["HEADERS = \x7b", "    \"Content-Type\": \"application/json\","]
    ++ ["    \"User-Agent\": ".toList ++ quoted userAgent ++ [',']]
    ++ fixed ["\x7d", ""]
    ++ ["server = Server(".toList ++ quoted (packageName s)
          ++ ", version=".toList ++ quoted s.version ++ [')']]
    ++ fixed ["", "# Tool definitions", "TOOLS = ["]

/-- The declaration of a tool. -/
def declaration (t : Tool) : Lines :=
  ["    types.Tool(".toList,
   "        name=".toList ++ quoted t.name ++ [','],
   "        description=".toList ++ quoted t.description ++ [','],
   "        inputSchema=".toList ++ t.schema.toValue.literal ++ [','],
   "    ),".toList]

/-- The statement that fills a parameter into the URL. -/
def fill (name : String) : List Char :=
  "    url = url.replace(".toList ++ quoted (braced name)
    ++ ", str(args.get(".toList ++ quoted name ++ ")))".toList

/-- The statements that put a parameter into the query. -/
def ask (name : String) : Lines :=
  ["    if args.get(".toList ++ quoted name ++ ") is not None:".toList,
   "        params[".toList ++ quoted name ++ "] = str(args[".toList
     ++ quoted name ++ "])".toList]

/-- The handler of a tool. -/
def handler (t : Tool) : Lines :=
  [[],
   [],
   "# ".toList ++ t.method.toList ++ ' ' :: t.path.toList,
   "async def ".toList ++ t.handler.toList
     ++ "(args: dict[str, Any]) -> list[types.TextContent]:".toList,
   "    url = BASE_URL + ".toList ++ quoted t.path]
    ++ t.pathParams.map fill
    ++ fixed ["", "    params: dict[str, str] = \x7b\x7d"]
    ++ t.queryParams.flatMap ask
    ++ [[],
        "    return await _call_api(".toList ++ quoted t.name
          ++ ", ".toList ++ quoted t.method ++ ", url, params".toList
          ++ (if t.sendsBody then ", args.get(\"body\")" else "").toList
          ++ [')']]

/-- The entry of a tool in the dispatch table. -/
def entry (t : Tool) : List Char :=
  "    ".toList ++ quoted t.name ++ ": ".toList ++ t.handler.toList ++ [',']

/-- The lines of the source. -/
def lines (s : Server) : Lines :=
  let tools := tools s
  head s
    ++ tools.flatMap declaration
    ++ fixed caller
    ++ tools.flatMap handler
    ++ fixed ["", "", "HANDLERS = \x7b"]
    ++ tools.map entry
    ++ fixed run

/-- The source. -/
def source (s : Server) : String := render (lines s)

end Toolsmith.Generate.Python
