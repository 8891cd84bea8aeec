/-
Credentials for an API. A scheme whose credentials are complete makes one
header; incomplete ones make none.
-/
import Toolsmith.Encoding.Base64
import Toolsmith.Encoding.Utf8
import Toolsmith.Shape

namespace Toolsmith

/-- The schemes of authentication. -/
inductive Scheme where
  | none
  | apiKey
  | bearer
  | basic
  deriving DecidableEq, Repr

/-- The word for a scheme. -/
def Scheme.name : Scheme → String
  | none => "none"
  | apiKey => "apiKey"
  | bearer => "bearer"
  | basic => "basic"

/-- The schemes by their words. -/
def Scheme.words : List (String × Scheme) :=
  [none, apiKey, bearer, basic].map fun s => (s.name, s)

/-- Credentials of one scheme; those of the others are not used. -/
structure Auth where
  scheme : Scheme := .none
  apiKey : Option String := .none
  headerName : Option String := .none
  bearerToken : Option String := .none
  username : Option String := .none
  password : Option String := .none
  deriving DecidableEq, Repr

/-- The credential is there and is not empty. -/
def given? (credential : Option String) : Option String :=
  credential.filter (· != "")

namespace Auth

open Shape in
/-- Reads credentials from a record. -/
def check : Check Auth := record fun es =>
  Auth.mk <$> fieldOr ["type"] .none (oneOf Scheme.words) es
    <*> fieldOr ["apiKey", "api_key"] none (optional text) es
    <*> fieldOr ["headerName", "header_name"] none (optional text) es
    <*> fieldOr ["bearerToken", "bearer_token"] none (optional text) es
    <*> fieldOr ["username"] none (optional text) es
    <*> fieldOr ["password"] none (optional text) es

/-- The value of a header for basic authentication. -/
def basicValue (username password : String) : Except Text.Lone String := do
  let octets ← Utf8.encode? (username.toList ++ ':' :: password.toList)
  return "Basic " ++ String.ofList (Base64.encode octets)

/-- The header of the scheme, if its credentials are complete. -/
def header? (a : Auth) : Except Text.Lone (Option (String × String)) :=
  match a.scheme with
  | .none => .ok none
  | .apiKey =>
    match given? a.headerName, given? a.apiKey with
    | some name, some key => .ok (some (name, key))
    | _, _ => .ok none
  | .bearer =>
    match given? a.bearerToken with
    | some token => .ok (some ("Authorization", s!"Bearer {token}"))
    | none => .ok none
  | .basic =>
    match given? a.username, given? a.password with
    | some username, some password => do
      return some ("Authorization", ← basicValue username password)
    | _, _ => .ok none

/-- The headers that the credentials make: one or none. -/
def headers (a : Auth) : Except Text.Lone (List (String × String)) := do
  return (← a.header?).toList

end Auth

end Toolsmith
