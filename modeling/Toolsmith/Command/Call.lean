/-
The command that calls one endpoint and prints the outcome.
-/
import Toolsmith.Call.Lookup
import Toolsmith.Command.Load
import Toolsmith.Command.Pairs

namespace Toolsmith.Command

/-- The option for another base URL. -/
def baseUrlOption : Named := ⟨["--base-url"], some .text, false⟩

/-- What `call` takes. -/
def callSignature : Signature :=
  { path := ["main", "call"]
    named :=
      [⟨["-p", "--param"], some .text, false⟩,
       ⟨["--body"], some .text, false⟩, baseUrlOption,
       ⟨["--timeout"], some .number, false⟩] ++ authOptions
    positional := [specification, ⟨"ENDPOINT_NAME", .text⟩] }

/-- A value that is no such thing, under the name of its option. -/
def refuseValue (name : String) (problem : Problem) : Ending :=
  .misused callSignature (.invalid name problem)

/-- The arguments that a reading gives as pairs. -/
def pairArguments (r : Reading) : Except Ending (List (Value × Value)) :=
  match arguments (r.all "--param") with
  | .ok entries => .ok entries
  | .error (.parameter text) => .error (refuseValue "-p" (.noPair text))
  | .error failure => .error (.failed failure)

/-- The body that a reading gives. -/
def body? (r : Reading) : Except Ending (Option Value) :=
  match r.last? "--body" with
  | none => .ok none
  | some text =>
    match Json.read text.toList with
    | .ok v => .ok (some v)
    | .error (.malformed cause offset) =>
      .error (refuseValue "--body"
        (.notJson (Json.malformedMessage text.toList cause offset)))
    | .error fault => .error (.failed (.ofJson fault))

/-- All arguments that a reading gives. The body is one of them. -/
def givenArguments (r : Reading) : Except Ending (List (Value × Value)) := do
  let entries ← pairArguments r
  match ← body? r with
  | some v => return Value.insertEntry (.text "body") v entries
  | none => return entries

/-- The number of seconds that a reading gives. -/
def givenTimeout (r : Reading) : Binary64 :=
  ((r.last? "--timeout").bind fun s => Number.float? s.toList).getD
    Settings.defaultTimeout

variable {m : Type → Type} [Monad m]

/-- Calls one endpoint and prints the outcome. -/
def call (host : Host m) (r : Reading) : Work m Unit := do
  let described ← loadServer host (place r 0)
  let server := described.withBaseUrl (r.last? "--base-url")
  let auth ← loadAuth host r
  let engine := Engine.ofServer server (some auth)
  let name := place r 1
  let some e := Catalog.findByName server.endpoints name
    | throw (.refused s!"No endpoint matches '{name}'")
  let given ← (givenArguments r : Except Ending _)
  let result ← ExceptT.lift
    (engine.execute (host.send (givenTimeout r)) e (.map given))
  let outcome ← orEnd result
  let report ←
    match outcome.report with
    | .ok text => pure text
    | .error fault => throw (.failed (.report fault))
  host.echo report
  if !outcome.success then throw .unsuccessful

end Toolsmith.Command
