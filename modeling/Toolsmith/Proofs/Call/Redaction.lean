/-
What the masked headers of a request say about the credentials behind them. A
scheme that names its own header has a name that is known for a secret, and the
header is masked whatever is in it. The header of a key has any name that is
given for it, and only some names are known: under another one the key is
reported as it is.

Both can be read off how the headers are made. Masking looks at names alone, so
it makes no difference whether headers are masked before the header of the
credentials is put among them or after.
-/
import Toolsmith.Call.Engine
import Toolsmith.Log
import Toolsmith.Proofs.Steps

namespace Toolsmith

open Log (redact mask isSensitive)

namespace Auth

/-- The credentials are complete: what the scheme needs is there, and none of
it is empty. -/
def Complete (a : Auth) : Prop :=
  match a.scheme with
  | .none => True
  | .apiKey => (∃ name, given? a.headerName = some name)
      ∧ ∃ key, given? a.apiKey = some key
  | .bearer => ∃ token, given? a.bearerToken = some token
  | .basic => (∃ username, given? a.username = some username)
      ∧ ∃ password, given? a.password = some password

/-- The name of the header that complete credentials make. -/
def carrier? (a : Auth) : Option String :=
  match a.scheme with
  | .none => none
  | .apiKey => a.headerName
  | .bearer | .basic => some "Authorization"

/-- The header that complete credentials make has a name which is known for a
secret. -/
def Masked (a : Auth) : Prop :=
  ∀ name, a.carrier? = some name → isSensitive name.toList = true

theorem given?_eq_some_iff {credential : Option String} {s : String} :
    given? credential = some s ↔ credential = some s ∧ s ≠ "" := by
  rw [given?, Option.filter_eq_some_iff, bne_iff_ne]

/-- Complete credentials make a header of that name, if they make one. -/
theorem Complete.map_fst_header? {a : Auth} (h : a.Complete)
    {made : Option (String × String)} (hmade : a.header? = .ok made) :
    made.map Prod.fst = a.carrier? := by
  unfold Complete at h
  unfold header? at hmade
  unfold carrier?
  cases hscheme : a.scheme with
  | none =>
      rw [hscheme] at hmade
      cases hmade
      rfl
  | apiKey =>
      rw [hscheme] at h hmade
      obtain ⟨⟨name, hname⟩, key, hkey⟩ := h
      rw [hname, hkey] at hmade
      cases hmade
      exact (given?_eq_some_iff.mp hname).1.symm
  | bearer =>
      rw [hscheme] at h hmade
      obtain ⟨token, htoken⟩ := h
      rw [htoken] at hmade
      cases hmade
      rfl
  | basic =>
      rw [hscheme] at h hmade
      obtain ⟨⟨username, husername⟩, password, hpassword⟩ := h
      rw [husername, hpassword] at hmade
      obtain ⟨value, -, hvalue⟩ := Steps.bind_eq_ok.mp hmade
      cases hvalue
      rfl

end Auth

namespace Engine

/-- The headers of a request without credentials. -/
def commonHeaders : List (String × String) :=
  [("Content-Type", "application/json"), ("User-Agent", userAgent)]

/-- A header as it is reported. -/
def reported (h : String × String) : String × String :=
  (h.1, if isSensitive h.1.toList then mask else h.2)

-- ============================================================= masking

variable {headers : List (String × String)} {name value value' : String}

theorem redact_eq_map (headers : List (String × String)) :
    redact headers = headers.map reported :=
  rfl

theorem reported_of_sensitive (h : isSensitive name.toList = true)
    (value : String) : reported (name, value) = (name, mask) := by
  rw [reported, if_pos h]

theorem reported_of_not_sensitive (h : isSensitive name.toList = false)
    (value : String) : reported (name, value) = (name, value) := by
  rw [reported, if_neg (Bool.eq_false_iff.mp h)]

/-- Masking looks at names alone, so a header may be masked before it is put
among the others. -/
theorem redact_putHeader (headers : List (String × String))
    (h : String × String) :
    redact (putHeader headers h) = putHeader (redact headers) (reported h) := by
  have hany : (headers.map reported).any (·.1 == h.1)
      = headers.any (·.1 == h.1) := List.any_map
  rw [redact_eq_map, redact_eq_map, putHeader, putHeader]
  show _ = if (headers.map reported).any (·.1 == h.1) then _ else _
  rw [hany]
  split
  · rw [List.map_map, List.map_map]
    refine List.map_congr_left fun old _ => ?_
    show reported (if old.1 == h.1 then h else old)
      = if old.1 == h.1 then reported h else reported old
    split <;> rfl
  · rw [List.map_append, List.map_singleton]

/-- The value of a header that is put among others can be told from it. -/
theorem putHeader_inj :
    putHeader headers (name, value) = putHeader headers (name, value')
      ↔ value = value' := by
  refine ⟨fun h => ?_, fun h => by rw [h]⟩
  unfold putHeader at h
  dsimp only at h
  split at h
  case isTrue hany =>
      obtain ⟨old, hold, hname⟩ := List.any_eq_true.mp hany
      have hhere := List.map_inj_left.mp h old hold
      rw [if_pos hname, if_pos hname] at hhere
      exact (Prod.mk.inj hhere).2
  case isFalse =>
      have hlast := List.append_cancel_left h
      exact (Prod.mk.inj (List.singleton_inj.mp hlast)).2

/-- Neither of the common headers is masked. -/
theorem redact_commonHeaders : redact commonHeaders = commonHeaders := by
  decide +kernel

/-- A header with a name that is known for a secret comes behind them. -/
theorem putHeader_commonHeaders (h : isSensitive name.toList = true)
    (value : String) :
    putHeader commonHeaders (name, value)
      = commonHeaders ++ [(name, value)] := by
  have hother : ∀ old ∈ commonHeaders, isSensitive old.1.toList = false := by
    decide +kernel
  refine if_neg fun hany => ?_
  obtain ⟨old, hold, hname⟩ := List.any_eq_true.mp hany
  have hsame : old.1 = name := eq_of_beq hname
  rw [← hsame, hother old hold] at h
  cases h

-- ========================================================= credentials

variable {engine engine' : Engine} {a b : Auth}
  {made made' : List (String × String)}

/-- The headers of an engine are the common ones and the header of its
credentials. -/
theorem headers_eq_ok (hauth : engine.auth = some a)
    (hmade : engine.headers = .ok made) :
    ∃ own, a.header? = .ok own
      ∧ made = own.toList.foldl putHeader commonHeaders := by
  unfold Engine.headers at hmade
  rw [hauth] at hmade
  obtain ⟨found, hfound, hmade⟩ := Steps.bind_eq_ok.mp hmade
  cases hown : a.header? with
  | error run =>
      rw [Auth.headers, hown] at hfound
      cases hfound
  | ok own =>
      rw [Auth.headers, hown] at hfound
      cases hfound
      cases hmade
      exact ⟨own, rfl, rfl⟩

/-- What is reported of them is the common headers and what is reported of the
header of the credentials. -/
theorem redact_foldl_putHeader (own : Option (String × String)) :
    redact (own.toList.foldl putHeader commonHeaders)
      = (own.map reported).toList.foldl putHeader commonHeaders := by
  cases own with
  | none => exact redact_commonHeaders
  | some h =>
      show redact (putHeader commonHeaders h)
        = putHeader commonHeaders (reported h)
      rw [redact_putHeader, redact_commonHeaders]

/-- Complete credentials that are masked leave nothing but the name of their
header. -/
theorem redact_headers_of_masked (hauth : engine.auth = some a)
    (ha : a.Complete) (hmasked : a.Masked)
    (hmade : engine.headers = .ok made) :
    redact made = commonHeaders ++ a.carrier?.toList.map (·, mask) := by
  obtain ⟨own, hown, rfl⟩ := headers_eq_ok hauth hmade
  rw [redact_foldl_putHeader, ← ha.map_fst_header? hown]
  cases own with
  | none => exact (List.append_nil commonHeaders).symm
  | some h =>
      obtain ⟨name, value⟩ := h
      have hsensitive : isSensitive name.toList = true :=
        hmasked name (ha.map_fst_header? hown).symm
      rw [Option.map_some, reported_of_sensitive hsensitive]
      exact putHeader_commonHeaders hsensitive mask

/-- Complete credentials that are not masked are a key, which is reported as it
is. -/
theorem redact_headers_of_not_masked (hauth : engine.auth = some a)
    (ha : a.Complete) (hopen : ¬ a.Masked)
    (hmade : engine.headers = .ok made) :
    ∃ name key, a.headerName = some name ∧ a.apiKey = some key
      ∧ redact made = putHeader commonHeaders (name, key) := by
  have hauthorization : isSensitive "Authorization".toList = true := by
    decide +kernel
  obtain ⟨own, hown, rfl⟩ := headers_eq_ok hauth hmade
  unfold Auth.Masked at hopen
  push Not at hopen
  obtain ⟨name, hcarrier, hsensitive⟩ := hopen
  unfold Auth.carrier? at hcarrier
  unfold Auth.Complete at ha
  unfold Auth.header? at hown
  cases hscheme : a.scheme with
  | none =>
      rw [hscheme] at hcarrier
      cases hcarrier
  | bearer =>
      rw [hscheme] at hcarrier
      cases hcarrier
      exact absurd hauthorization hsensitive
  | basic =>
      rw [hscheme] at hcarrier
      cases hcarrier
      exact absurd hauthorization hsensitive
  | apiKey =>
      rw [hscheme] at hcarrier ha hown
      obtain ⟨⟨_, hname⟩, key, hkey⟩ := ha
      rw [hname, hkey] at hown
      cases hown
      cases hcarrier.symm.trans (Auth.given?_eq_some_iff.mp hname).1
      refine ⟨name, key, hcarrier, (Auth.given?_eq_some_iff.mp hkey).1, ?_⟩
      rw [redact_foldl_putHeader, Option.map_some,
        reported_of_not_sensitive (Bool.eq_false_iff.mpr hsensitive)]
      rfl

/-- What is reported of the headers of a request tells two complete credentials
of one scheme and one header name apart exactly if they are keys that differ
and the name is not known for a secret. Where it is known, and for every other
scheme, nothing is reported of the credentials but the name of their header. -/
theorem redact_headers_eq_iff (hscheme : a.scheme = b.scheme)
    (hname : a.headerName = b.headerName) (ha : a.Complete) (hb : b.Complete)
    (hauth : engine.auth = some a) (hauth' : engine'.auth = some b)
    (hmade : engine.headers = .ok made)
    (hmade' : engine'.headers = .ok made') :
    (redact made = redact made' ↔ a.Masked ∨ a.apiKey = b.apiKey)
      ∧ (a.Masked →
        redact made = commonHeaders ++ a.carrier?.toList.map (·, mask)) := by
  have hcarrier : a.carrier? = b.carrier? := by
    rw [Auth.carrier?, Auth.carrier?, hscheme, hname]
  have hboth : b.Masked ↔ a.Masked := by
    rw [Auth.Masked, Auth.Masked, hcarrier]
  refine ⟨?_, fun hmasked => redact_headers_of_masked hauth ha hmasked hmade⟩
  by_cases hmasked : a.Masked
  · refine iff_of_true ?_ (Or.inl hmasked)
    rw [redact_headers_of_masked hauth ha hmasked hmade,
      redact_headers_of_masked hauth' hb (hboth.mpr hmasked) hmade', hcarrier]
  · obtain ⟨name, key, hfound, hkey, hreported⟩ :=
      redact_headers_of_not_masked hauth ha hmasked hmade
    obtain ⟨name', key', hfound', hkey', hreported'⟩ :=
      redact_headers_of_not_masked hauth' hb (mt hboth.mp hmasked) hmade'
    obtain rfl : name = name' :=
      Option.some.inj (hfound.symm.trans (hname.trans hfound'))
    rw [hreported, hreported', putHeader_inj, or_iff_right hmasked, hkey,
      hkey', Option.some_inj]

/-- A key for a header of the given name. -/
def keyFor (name key : String) : Auth :=
  { scheme := .apiKey, headerName := some name, apiKey := some key }

/-- An engine with credentials. -/
def withCredentials (a : Auth) : Engine := ⟨"https://x.example", some a⟩

/-- Two keys for a header that is called a key of an API are reported alike. -/
theorem redact_headers_eq_iff_known :
    ∃ made made',
      (withCredentials (keyFor "X-Api_Key" "first")).headers = .ok made
        ∧ (withCredentials (keyFor "X-Api_Key" "second")).headers = .ok made'
        ∧ redact made = redact made'
        ∧ redact made = commonHeaders ++ [("X-Api_Key", mask)] := by
  have hmasked : (keyFor "X-Api_Key" "first").Masked := by
    intro name hname
    cases hname
    decide +kernel
  have hauth : ∀ key, (withCredentials (keyFor "X-Api_Key" key)).auth
      = some (keyFor "X-Api_Key" key) := fun _ => rfl
  have hmade : (withCredentials (keyFor "X-Api_Key" "first")).headers
      = .ok _ := rfl
  have hmade' : (withCredentials (keyFor "X-Api_Key" "second")).headers
      = .ok _ := rfl
  obtain ⟨hsame, hreported⟩ := redact_headers_eq_iff
    (a := keyFor "X-Api_Key" "first") (b := keyFor "X-Api_Key" "second")
    rfl rfl ⟨⟨_, rfl⟩, _, rfl⟩ ⟨⟨_, rfl⟩, _, rfl⟩ (hauth "first")
    (hauth "second") hmade hmade'
  exact ⟨_, _, hmade, hmade', hsame.mpr (Or.inl hmasked), hreported hmasked⟩

/-- Not every key is masked: two keys for a header of another name are reported
as they are. -/
theorem not_forall_redacted :
    ¬ ∀ (a b : Auth) (engine engine' : Engine)
        (made made' : List (String × String)),
      a.scheme = b.scheme → a.headerName = b.headerName → a.Complete →
      b.Complete → engine.auth = some a → engine'.auth = some b →
      engine.headers = .ok made → engine'.headers = .ok made' →
      redact made = redact made' := by
  intro h
  have hsame := h (keyFor "X-Key" "env-key") (keyFor "X-Key" "other-key")
    (withCredentials (keyFor "X-Key" "env-key"))
    (withCredentials (keyFor "X-Key" "other-key")) _ _ rfl rfl
    ⟨⟨_, rfl⟩, _, rfl⟩ ⟨⟨_, rfl⟩, _, rfl⟩ rfl rfl rfl rfl
  exact absurd hsame (by decide +kernel)

end Engine

end Toolsmith
