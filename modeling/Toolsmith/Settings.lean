/-
The settings: which provider completes, with which credentials, and how the
API is reached. They come from arguments and from environment variables;
arguments win.
-/
import Toolsmith.Api.Auth
import Toolsmith.Backend.Client
import Toolsmith.Failure
import Toolsmith.Text.Case

namespace Toolsmith

open Text

/-- The settings. The provider is a word, since settings that were changed
after they were read may name one that does not exist. -/
structure Settings where
  provider : String
  model : Option String
  openaiKey : String
  geminiKey : String
  openrouterKey : String
  openrouterModel : String
  siteUrl : Option String
  siteName : Option String
  baseUrl : Option String
  auth : Auth
  timeout : Binary64
  logLevel : String
  deriving DecidableEq, Repr

namespace Settings

-- ============================================================== reading

/-- What the record of settings is called. -/
def recordName : String := "AppConfig"

/-- The setting that holds a record of its own. -/
def authName : String := "auth_config"

/-- The names of the settings. -/
def names : List String :=
  ["ai_provider", "ai_model", "openai_api_key", "gemini_api_key",
   "openrouter_api_key", "openrouter_model", "site_url", "site_name",
   "api_base_url", authName, "request_timeout", "log_level"]

/-- The names of the credentials for the API, as a record spells them. -/
def authNames : List String :=
  ["type", "apiKey", "headerName", "bearerToken", "username", "password"]

/-- How many seconds a call may take unless told otherwise. -/
def defaultTimeout : Binary64 := .ofInt 30

open Shape in
/-- Reads settings from a record. Each has a value of its own if it is left
out. -/
def check : Check Settings := record fun es =>
  Settings.mk
    <$> fieldOr ["ai_provider"] Provider.openai.name
      (oneOf (Provider.all.map fun p => (p.name, p.name))) es
    <*> fieldOr ["ai_model"] none (optional text) es
    <*> fieldOr ["openai_api_key"] "" text es
    <*> fieldOr ["gemini_api_key"] "" text es
    <*> fieldOr ["openrouter_api_key"] "" text es
    <*> fieldOr ["openrouter_model"] Provider.openrouter.defaultModel text es
    <*> fieldOr ["site_url"] none (optional text) es
    <*> fieldOr ["site_name"] none (optional text) es
    <*> fieldOr ["api_base_url"] none (optional text) es
    <*> fieldOr [authName] ({} : Auth) Auth.check es
    <*> fieldOr ["request_timeout"] defaultTimeout double es
    <*> fieldOr ["log_level"] "WARNING" text es

/-- Two names are one when case does not count. -/
def sameName (a b : String) : Bool := lower a.toList == lower b.toList

/-- The name among `known` that a name means, or the name itself. -/
def properName (known : List String) (name : String) : String :=
  (known.find? (sameName name)).getD name

/-- The arguments by the names of the settings. An exact name counts before
one in another case. -/
def ofArguments (arguments : List (String × Value)) :
    List (String × Value) :=
  names.filterMap fun name =>
    ((arguments.lookup name).or
      ((arguments.find? fun (k, _) => sameName name k).map (·.2))).map
        (name, ·)

/-- Credentials as an environment variable holds them: JSON, in which the
case of names does not count. The text `null` says nothing. -/
def authOfVariable (s : String) : Except Failure (Option Value) :=
  match Json.read s.toList with
  | .error (.tooDeep isMapping) => .error (.misuse (.depth isMapping))
  | .error _ => .error .environment
  | .ok .null => .ok none
  | .ok (.map entries) =>
    .ok (some (.ofEntries (entries.map fun (k, v) =>
      (.text (properName authNames k.displayString), v))))
  | .ok v => .ok (some v)

/-- The last variable of a name, whatever its case. -/
def lastOf (environment : List (String × String)) (name : String) :
    Option String :=
  (environment.reverse.find? fun (k, _) => sameName name k).map (·.2)

/-- The settings that the environment holds. -/
def ofEnvironment (environment : List (String × String)) :
    Except Failure (List (String × Value)) := do
  let found ← names.mapM fun name => do
    match lastOf environment name with
    | none => return none
    | some s =>
      if name == authName then
        return (← authOfVariable s).map (name, ·)
      else return some (name, Value.text s)
  return found.filterMap id

/-- One value over another one: two mappings are joined key by key. -/
def layered (upper lower : Value) : Value :=
  match upper, lower with
  | .map entries, .map others =>
    .map (entries.foldl (fun es (k, v) => Value.insertEntry k v es) others)
  | _, _ => upper

/-- The arguments over the environment. -/
def merged (arguments environment : List (String × Value)) :
    List (String × Value) :=
  names.filterMap fun name =>
    match arguments.lookup name, environment.lookup name with
    | some v, some w => some (name, layered v w)
    | some v, none => some (name, v)
    | none, found => found.map (name, ·)

/-- Reads the settings from arguments and the environment. -/
def read (arguments : List (String × Value))
    (environment : List (String × String)) : Except Failure Settings := do
  let found ← ofEnvironment environment
  Failure.ofChecked recordName
    (check (.ofFields (merged (ofArguments arguments) found)))

-- ============================================================ providers

/-- The credential for a provider, empty if there is none. -/
def key (s : Settings) : Provider → String
  | .openai => s.openaiKey
  | .gemini => s.geminiKey
  | .openrouter => s.openrouterKey

/-- The model that is asked for. -/
def chosenModel (s : Settings) : Provider → Option String
  | .openrouter => (given? s.model).or (some s.openrouterModel)
  | _ => s.model

/-- The first thing that the chosen provider still needs. -/
def missing? (s : Settings) : Option String := do
  let p ← Provider.ofName? s.provider
  if s.key p == "" then return p.credential
  else
    guard (p == .openrouter)
    guard (given? (s.chosenModel p)).isNone
    return "OpenRouter model"

/-- Nothing is missing. -/
def isReady (s : Settings) : Bool := s.missing?.isNone

/-- Fails if something is missing. -/
def requireReady (s : Settings) : Except Failure Unit :=
  match s.missing? with
  | none => .ok ()
  | some label =>
    .error (.configuration
      s!"Missing {label} for provider '{s.provider}'")

/-- The client of the chosen provider. -/
def client (s : Settings) : Except Failure Client := do
  s.requireReady
  match Provider.ofName? s.provider with
  | none =>
    throw (.configuration s!"Unsupported AI provider: {s.provider}")
  | some p =>
    let headers :=
      if p == .openrouter then Client.siteHeaders s.siteUrl s.siteName
      else []
    return .make p (some (s.key p)) (s.chosenModel p) headers

-- ================================================================= kept

/-- Settings that are read once and then kept. -/
structure Kept where
  current : Option Settings
  deriving DecidableEq, Repr

namespace Kept

/-- Nothing is kept yet, or any more. -/
def empty : Kept := ⟨none⟩

/-- The settings, read if none are kept. Those that cannot be read are not
kept. -/
def get (k : Kept) (environment : List (String × String)) :
    Except Failure Settings × Kept :=
  match k.current with
  | some s => (.ok s, k)
  | none =>
    match read [] environment with
    | .ok s => (.ok s, ⟨some s⟩)
    | .error failure => (.error failure, k)

end Kept

end Settings

end Toolsmith
