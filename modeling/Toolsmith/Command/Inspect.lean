/-
The command that lists the endpoints of a description.
-/
import Toolsmith.Command.Load

namespace Toolsmith.Command

variable {m : Type → Type} [Monad m]

/-- What `inspect` takes. -/
def inspectSignature : Signature :=
  { path := ["main", "inspect"], named := [], positional := [specification] }

/-- A text with blanks behind it up to a width. -/
def padded (width : Nat) (s : String) : String :=
  s ++ String.ofList (List.replicate (width - s.length) ' ')

/-- The line about an endpoint. -/
def endpointLine (e : Endpoint) : String :=
  s!"  {padded 7 e.method} {e.path}  {e.name}({e.signature})"

/-- The lines about a server. -/
def overview (s : Server) : List String :=
  [s!"{s.name} ({s.id}) -> {s.baseUrl}",
   s!"Found {s.endpoints.length} endpoints."]
    ++ s.endpoints.map endpointLine

/-- Lists the endpoints of a description. -/
def inspect (host : Host m) (r : Reading) : Work m Unit := do
  let server ← loadServer host (place r 0)
  (overview server).forM fun line => host.echo line

end Toolsmith.Command
