/-
The header that credentials make for a call. Complete credentials make one and
incomplete ones none, and it carries what is configured and nothing else: a key
and a token stand in it as they are, and a username and a password can be read
back from it, joined by a colon, through base64 and UTF-8.

So basic credentials have the same header exactly if they are joined to the same
text. The texts themselves need not be the same, since a colon may be in each of
them.
-/
import Toolsmith.Proofs.Call.Execute
import Toolsmith.Proofs.Call.Redaction
import Toolsmith.Proofs.Encoding

namespace Toolsmith.Auth

open Text

-- ======================================================== the credentials

/-- The texts that are configured, for whichever scheme. -/
def texts (a : Auth) : List String :=
  [a.apiKey, a.headerName, a.bearerToken, a.username, a.password].filterMap id

/-- No text that is configured has a lone surrogate. -/
def SurrogateFree (a : Auth) : Prop := ∀ text ∈ a.texts, LoneFree text.toList

instance (a : Auth) : Decidable a.SurrogateFree :=
  inferInstanceAs (Decidable (∀ text ∈ a.texts, LoneFree text.toList))

/-- Credentials for basic authentication, with a username and a password that
are not empty. -/
structure IsBasic (a : Auth) (username password : String) : Prop where
  scheme_eq : a.scheme = .basic
  username_eq : given? a.username = some username
  password_eq : given? a.password = some password

/-- The text that a username and a password are joined to. -/
theorem toList_joined (username password : String) :
    (username ++ ":" ++ password).toList
      = username.toList ++ ':' :: password.toList := by
  rw [String.toList_append, String.toList_append, List.append_assoc]
  rfl

/-- It has no lone surrogates if they have none. -/
theorem SurrogateFree.loneFree_joined {a : Auth} (hfree : a.SurrogateFree)
    {username password : String} (husername : given? a.username = some username)
    (hpassword : given? a.password = some password) :
    LoneFree (username ++ ":" ++ password).toList := by
  have hname : a.username = some username :=
    (given?_eq_some_iff.mp husername).1
  have hsecret : a.password = some password :=
    (given?_eq_some_iff.mp hpassword).1
  have hmem : username ∈ a.texts ∧ password ∈ a.texts := by
    simp [texts, hname, hsecret]
  rw [toList_joined, loneFree_append, loneFree_cons]
  exact ⟨hfree _ hmem.1, by decide, hfree _ hmem.2⟩

-- ============================================================ the header

/-- Credentials without lone surrogates come to a header or to none. -/
theorem SurrogateFree.exists_header? {a : Auth} (hfree : a.SurrogateFree) :
    ∃ made, a.header? = .ok made := by
  cases hmade : a.header? with
  | ok made => exact ⟨made, rfl⟩
  | error run =>
      obtain ⟨username, password, -, husername, hpassword, hlone⟩ :=
        Engine.header?_error_iff.mp ⟨run, hmade⟩
      rw [← toList_joined] at hlone
      exact absurd (hfree.loneFree_joined husername hpassword) hlone

/-- The headers are the header, if there is one. -/
theorem headers_of_header? {a : Auth} {made : Option (String × String)}
    (hmade : a.header? = .ok made) : a.headers = .ok made.toList := by
  rw [headers, hmade]
  rfl

/-- There is one exactly for complete credentials of a scheme that has a
header. -/
theorem isSome_header?_iff {a : Auth} {made : Option (String × String)}
    (hmade : a.header? = .ok made) :
    made.isSome = true ↔ a.scheme ≠ .none ∧ a.Complete := by
  unfold header? at hmade
  unfold Complete
  cases hscheme : a.scheme with
  | none =>
      rw [hscheme] at hmade
      cases hmade
      simp
  | apiKey =>
      rw [hscheme] at hmade
      cases hname : given? a.headerName <;> cases hkey : given? a.apiKey <;>
        rw [hname, hkey] at hmade <;> cases hmade <;> simp
  | bearer =>
      rw [hscheme] at hmade
      cases htoken : given? a.bearerToken <;>
        rw [htoken] at hmade <;> cases hmade <;> simp
  | basic =>
      rw [hscheme] at hmade
      cases husername : given? a.username <;>
        cases hpassword : given? a.password <;>
        rw [husername, hpassword] at hmade
      case some.some username password =>
        obtain ⟨value, -, hvalue⟩ := Steps.bind_eq_ok.mp hmade
        cases hvalue
        simp
      all_goals
        cases hmade
        simp

/-- The characters that carry a text in a header. -/
def coded (s : List Char) : List Char := Base64.encode (Utf8.encode s)

/-- They give the text back. -/
theorem decode?_coded (s : List Char) :
    (Base64.decode? (coded s)).bind Utf8.decode? = some s := by
  rw [coded, Base64.decode?_encode, Option.bind_some, Utf8.decode?_encode]

/-- So no other text has the same ones. -/
theorem coded_inj {s t : List Char} : coded s = coded t ↔ s = t := by
  refine ⟨fun h => ?_, congrArg coded⟩
  have hback := decode?_coded s
  rw [h, decode?_coded] at hback
  exact (Option.some.inj hback).symm

/-- The value of a header for basic authentication, of a text that is
octets. -/
theorem basicValue_of_loneFree {username password : String}
    (h : LoneFree (username ++ ":" ++ password).toList) :
    basicValue username password = .ok ("Basic " ++ String.ofList
      (coded (username ++ ":" ++ password).toList)) := by
  rw [toList_joined] at h ⊢
  rw [basicValue, Engine.encode?_eq_ok_iff.mpr ⟨h, rfl⟩]
  rfl

/-- The header of basic credentials. -/
theorem IsBasic.headers_eq {a : Auth} {username password : String}
    (h : a.IsBasic username password) (hfree : a.SurrogateFree) :
    a.headers = .ok [("Authorization", "Basic " ++ String.ofList
      (coded (username ++ ":" ++ password).toList))] := by
  have hvalue := basicValue_of_loneFree
    (hfree.loneFree_joined h.username_eq h.password_eq)
  have hmade : a.header? = .ok (some ("Authorization", "Basic "
      ++ String.ofList (coded (username ++ ":" ++ password).toList))) := by
    unfold header?
    rw [h.scheme_eq, h.username_eq, h.password_eq]
    dsimp only
    rw [hvalue]
    rfl
  exact headers_of_header? hmade

/-- Basic credentials have the same header exactly if they are joined to the
same text. -/
theorem IsBasic.headers_eq_iff {a b : Auth} {u p u' p' : String}
    (ha : a.IsBasic u p) (hb : b.IsBasic u' p') (hfree : a.SurrogateFree)
    (hfree' : b.SurrogateFree) :
    b.headers = a.headers ↔ u' ++ ":" ++ p' = u ++ ":" ++ p := by
  rw [ha.headers_eq hfree, hb.headers_eq hfree', Except.ok.injEq,
    List.singleton_inj, Prod.mk.injEq, and_iff_right rfl,
    String.append_right_inj, String.ofList_inj, coded_inj, String.toList_inj]

/-- Credentials for basic authentication. -/
def basicFor (username password : String) : Auth :=
  { scheme := .basic, username := some username, password := some password }

end Toolsmith.Auth
