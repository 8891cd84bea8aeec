/-
What parameters an operation has. In front stand those of the tokens of its
path, each once. Behind them stand the declarations that make a parameter, one
for one and in the order in which they are declared: a mapping with a name and
a schema makes one, if its location is one of the four or none is given, and
if it does not declare a token of the path over again.

Whether a declaration does that is decided by its name as it is written. A
name may be written in octets, too, and is only read as a text when the
parameter is made. So a token can come a second time, and `Respells` says for
exactly which declarations.
-/
import Mathlib.Data.List.Count
import Toolsmith.Proofs.Document.Fit
import Toolsmith.Proofs.Document.Tokens

namespace Toolsmith

/-- A text is read from itself or from its octets. -/
theorem Shape.text_eq_ok_iff {v : Value} {s : String} :
    text v = .ok s ↔ v = .text s ∨ ∃ octets, v = .bytes octets
      ∧ Utf8.decode? octets = some s.toList := by
  constructor
  · intro h
    unfold text at h
    split at h
    · cases h
      exact Or.inl rfl
    · split at h
      next octets _ found hfound =>
        cases h
        exact Or.inr ⟨octets, rfl, by rw [hfound, String.toList_ofList]⟩
      next => cases h
    · cases h
  · rintro (rfl | ⟨octets, rfl, hread⟩)
    · rfl
    · unfold text
      dsimp only
      rw [hread]
      exact congrArg Checked.ok String.ofList_toList

namespace Document

variable {d : Document}

-- ============================================================ location

/-- A word names a location exactly if it is the word for it. -/
theorem ofName?_eq_some_iff {word : String} {location : Location} :
    Location.ofName? word = some location ↔ word = location.name := by
  constructor
  · intro h
    obtain ⟨found, hfound, rfl⟩ := Option.map_eq_some_iff.mp h
    obtain ⟨l, -, rfl⟩ := List.mem_map.mp (List.mem_of_find?_eq_some hfound)
    have hword := List.find?_some hfound
    exact (beq_iff_eq.mp hword).symm
  · rintro rfl
    cases location <;> decide

/-- A location is given by its word, and the query also by nothing. -/
theorem declaredLocation?_eq_some_iff {v : Value} {location : Location} :
    declaredLocation? v = some location
      ↔ (v.isTruthy = false ∧ location = .query)
        ∨ v = .text location.name := by
  unfold declaredLocation?
  split
  next htruthy =>
    have hword : v.text?.bind Location.ofName? = some location
        ↔ v = .text location.name := by
      cases v with
      | text word =>
          refine ofName?_eq_some_iff.trans ⟨congrArg _, fun h => ?_⟩
          cases h
          rfl
      | _ => exact ⟨fun h => (by cases h), fun h => (by cases h)⟩
    rw [hword, htruthy]
    simp
  next htruthy =>
    have hempty : v ≠ .text location.name := by
      rintro rfl
      exact htruthy (by cases location <;> decide)
    simp [htruthy, hempty, eq_comm]

-- ============================================================== making

/-- A parameter is what a declaration gives. -/
structure GivenBy (d : Document) (x : Value) (p : Param) : Prop where
  name : Shape.text (d.fieldOf x "name") = .ok p.name
  type : d.schemaType (d.fieldOf x "schema") = .ok p.type
  required : p.required = (d.fieldOf x "required").isTruthy
  description : Shape.optional Shape.text (d.fieldOf x "description")
    = .ok p.description
  location : declaredLocation? (d.fieldOf x "in") = some p.location

/-- Whether a declaration makes a parameter, as a check. -/
def declares (d : Document) (tokens : List String) (x : Value) : Bool :=
  x.isMap && (d.fieldOf x "name").isTruthy && (d.fieldOf x "schema").isTruthy
    && (declaredLocation? (d.fieldOf x "in")).any fun location =>
      !(location == .path
        && ((d.fieldOf x "name").text?.map tokens.contains).getD false)

theorem declares_iff {tokens : List String} {x : Value} :
    d.declares tokens x = true ↔ d.Declares tokens x := by
  simp only [declares, Bool.and_eq_true, Option.any_eq_true,
    Bool.not_eq_true']
  simp only [← Bool.not_eq_true, repeats_iff]
  exact ⟨fun ⟨⟨⟨hmap, hname⟩, hschema⟩, hlocation⟩ =>
      ⟨hmap, hname, hschema, hlocation⟩,
    fun h => ⟨⟨⟨h.isMap, h.name⟩, h.schema⟩, h.location⟩⟩

instance (tokens : List String) (x : Value) :
    Decidable (d.Declares tokens x) :=
  decidable_of_iff _ declares_iff

/-- Only a declaration that makes no parameter is left out. -/
theorem not_declares_of_declaredParam {tokens : List String} {x : Value}
    (h : d.declaredParam tokens x = .ok none) : ¬ d.Declares tokens x := by
  intro hdeclares
  obtain ⟨location, hlocation, hnot⟩ := hdeclares.location
  unfold declaredParam at h
  dsimp only at h
  rw [hdeclares.isMap, hdeclares.name, hdeclares.schema, hlocation] at h
  simp only [Bool.and_true, Bool.not_true, Bool.false_eq_true, if_false,
    if_neg fun hrepeats => hnot (repeats_iff.mp hrepeats)] at h
  obtain ⟨_, -, h⟩ := Steps.bind_eq_ok.mp h
  obtain ⟨_, -, h⟩ := Steps.map_eq_ok.mp h
  cases h

/-- The others make what they give. -/
theorem givenBy_of_declaredParam {tokens : List String} {x : Value}
    {p : Param} (h : d.declaredParam tokens x = .ok (some p)) :
    d.Declares tokens x ∧ d.GivenBy x p := by
  unfold declaredParam at h
  dsimp only at h
  split at h
  · cases h
  next hparts =>
  simp only [Bool.not_eq_true, Bool.not_eq_false', Bool.and_eq_true] at hparts
  obtain ⟨⟨hmap, hname⟩, hschema⟩ := hparts
  split at h
  · cases h
  next location hlocation =>
  split at h
  · cases h
  next hnew =>
  obtain ⟨type, htype, h⟩ := Steps.bind_eq_ok.mp h
  obtain ⟨read, hread, h⟩ := Steps.map_eq_ok.mp h
  cases h
  obtain ⟨g, description, hg, hdescription, rfl⟩ :=
    Shape.Checked.seq_eq_ok (Failure.ofChecked_eq_ok.mp hread)
  obtain ⟨f, name, hf, hmade, rfl⟩ := Shape.Checked.seq_eq_ok hg
  cases hf
  exact ⟨⟨hmap, hname, hschema, location, hlocation,
      fun hrepeats => hnew (repeats_iff.mpr hrepeats)⟩,
    Shape.Checked.under_eq_ok.mp hmade, htype, rfl,
    Shape.Checked.under_eq_ok.mp hdescription, hlocation⟩

/-- The parameters of an operation, in the order in which they come. -/
theorem forall₂_of_parameters {declared : List Value} {path : String}
    {params : List Param} (h : d.parameters declared path = .ok params) :
    ∃ further, params = (distinctTokens path).map tokenParam ++ further
      ∧ List.Forall₂ d.GivenBy
        (declared.filter fun x => d.Declares (distinctTokens path) x)
        further := by
  obtain ⟨found, hfound, h⟩ := Steps.bind_eq_ok.mp h
  cases h
  refine ⟨_, rfl, Steps.forall₂_filter_of_mapM (fun x hx => ?_)
    (fun x p hx => ?_) hfound⟩
  · exact decide_eq_false (not_declares_of_declaredParam hx)
  · exact (givenBy_of_declaredParam hx).imp_left decide_eq_true

/-- What makes parameters is among the declarations that make one. -/
theorem forall₂_declares_of_givenBy {tokens : List String} {xs : List Value}
    {params : List Param}
    (h : List.Forall₂ d.GivenBy (xs.filter fun x => d.Declares tokens x)
      params) :
    List.Forall₂ (fun x p => d.Declares tokens x ∧ d.GivenBy x p)
      (xs.filter fun x => d.Declares tokens x) params :=
  (List.forall₂_and_left _ _).mpr
    ⟨fun _ hx => of_decide_eq_true (List.mem_filter.mp hx).2, h⟩

-- =========================================================== spellings

/-- A declaration is one of a token of the path, and has its name written in
octets. -/
structure Respells (d : Document) (token : String) (x : Value) : Prop where
  location : d.fieldOf x "in" = .text "path"
  name : ∃ octets, d.fieldOf x "name" = .bytes octets
    ∧ Utf8.decode? octets = some token.toList

/-- A parameter stands for a token of the path. -/
def standsFor (token : String) (p : Param) : Bool :=
  p.location == .path && p.name == token

theorem standsFor_iff {token : String} {p : Param} :
    standsFor token p = true ↔ p.location = .path ∧ p.name = token := by
  simp [standsFor]

/-- Among the declarations that make a parameter, those in octets are the ones
whose parameter stands for a token. -/
theorem standsFor_iff_respells {tokens : List String} {token : String}
    (htoken : token ∈ tokens) {x : Value} {p : Param}
    (hdeclares : d.Declares tokens x) (hgiven : d.GivenBy x p) :
    standsFor token p = true ↔ d.Respells token x := by
  rw [standsFor_iff]
  constructor
  · rintro ⟨hlocation, rfl⟩
    have hpath := hgiven.location
    rw [hlocation] at hpath
    refine ⟨?_, ?_⟩
    · rcases declaredLocation?_eq_some_iff.mp hpath with ⟨-, h⟩ | h
      · cases h
      · exact h
    · rcases Shape.text_eq_ok_iff.mp hgiven.name with hname | hname
      · obtain ⟨location, hfound, hnot⟩ := hdeclares.location
        cases hfound.symm.trans hpath
        exact absurd ⟨rfl, p.name, htoken, hname⟩ hnot
      · exact hname
  · rintro ⟨hlocation, octets, hname, hread⟩
    have hfound : some p.location = some .path :=
      hgiven.location.symm.trans
        (declaredLocation?_eq_some_iff.mpr (Or.inr hlocation))
    have hread : Shape.text (d.fieldOf x "name") = .ok token :=
      Shape.text_eq_ok_iff.mpr (Or.inr ⟨octets, hname, hread⟩)
    cases hgiven.name.symm.trans hread
    exact ⟨Option.some.inj hfound, rfl⟩

/-- So without those, no parameter that is made stands for a token. -/
theorem forall_not_standsFor_iff {tokens : List String} {token : String}
    (htoken : token ∈ tokens) {xs : List Value} {params : List Param}
    (h : List.Forall₂ d.GivenBy (xs.filter fun x => d.Declares tokens x)
      params) :
    (∀ p ∈ params, ¬ standsFor token p = true)
      ↔ ∀ x ∈ xs, d.Declares tokens x → ¬ d.Respells token x := by
  rw [← Steps.forall_mem_iff_of_forall₂ (fun hboth =>
    not_congr (standsFor_iff_respells htoken hboth.1 hboth.2).symm)
    (forall₂_declares_of_givenBy h)]
  simp only [List.mem_filter, decide_eq_true_eq, and_imp]

/-- Each token has one parameter in front. -/
theorem countP_tokenParam {tokens : List String} (hnodup : tokens.Nodup)
    {token : String} (htoken : token ∈ tokens) :
    (tokens.map tokenParam).countP (standsFor token) = 1 := by
  rw [List.countP_map, ← List.count_eq_one_of_mem hnodup htoken]
  rfl

/-- The parameters of an operation are those of the tokens of its path, each
once and in the order of their first places, and behind them one for every
declaration that makes a parameter, in the order of the declarations. A token
has more than the one in front exactly if a declaration of it is written in
octets. -/
theorem parameters_declared {declared : List Value} {path : String}
    {params : List Param} (h : d.parameters declared path = .ok params) :
    ∃ tokens once further, Tokens path.toList tokens
      ∧ OnceEach tokens once
      ∧ params = once.map tokenParam ++ further
      ∧ List.Forall₂ d.GivenBy (declared.filter fun x => d.Declares once x)
        further
      ∧ ∀ token ∈ once, params.countP (standsFor token) = 1
        ↔ ¬ ∃ x ∈ declared, d.Declares once x ∧ d.Respells token x := by
  obtain ⟨further, rfl, hfurther⟩ := forall₂_of_parameters h
  have honce : OnceEach _ (distinctTokens path) := onceEach_firstOccurrences _
  refine ⟨_, _, further, tokens_iff.mpr rfl, honce, rfl, hfurther,
    fun token htoken => ?_⟩
  rw [List.countP_append, countP_tokenParam honce.nodup htoken,
    Nat.add_eq_left, List.countP_eq_zero,
    forall_not_standsFor_iff htoken hfurther]
  simp only [not_exists, not_and]

/-- A document with nothing in it. -/
def blank : Document := ⟨.ofValue .null, []⟩

/-- A declaration with a name, a location and a schema of a type. -/
def declaring (name location : Value) : Value :=
  .map [(.text "name", name), (.text "in", location),
    (.text "schema", .map [(.text "type", .text "integer")])]

/-- The name `y` in octets. -/
def octetsOfY : Value := .bytes [0x79]

/-- Declarations that repeat a token, that have no place among the inputs of a
tool, that are no mapping, and one in octets. -/
def assorted : List Value :=
  [declaring (.text "q") .null, declaring (.text "x") (.text "path"),
   declaring (.text "x") (.text "header"), declaring (.text "b") (.text "body"),
   .text "x", declaring octetsOfY (.text "path"), .map [],
   declaring (.text "w") (.text "")]

/-- A path with tokens that repeat, that stand side by side and that are
none. -/
def assortedPath : String := "/a/\x7bx\x7d/\x7by\x7d\x7bx\x7d/\x7b\x7d/\x7bz"

/-- Four of the declarations make a parameter. The one in octets is a second
one for `y`; there is one for `x`, though its token comes twice. -/
theorem parameters_declared_assorted :
    ∃ params, blank.parameters assorted assortedPath = .ok params
      ∧ (∃ tokens once further, Tokens assortedPath.toList tokens
        ∧ OnceEach tokens once
        ∧ params = once.map tokenParam ++ further
        ∧ List.Forall₂ blank.GivenBy
          (assorted.filter fun x => blank.Declares once x) further
        ∧ ∀ token ∈ once, params.countP (standsFor token) = 1
          ↔ ¬ ∃ x ∈ assorted, blank.Declares once x ∧ blank.Respells token x)
      ∧ params.map (fun p => (p.name, p.location))
        = [("x", .path), ("y", .path), ("q", .query), ("x", .header),
          ("y", .path), ("w", .query)]
      ∧ params.countP (standsFor "x") = 1
      ∧ params.countP (standsFor "y") = 2 := by
  have hrun : (blank.parameters assorted assortedPath).toOption.map
      (·.map fun p => (p.name, p.location))
        = some [("x", .path), ("y", .path), ("q", .query), ("x", .header),
          ("y", .path), ("w", .query)] := by
    decide +kernel
  obtain ⟨params, hparams, hlist⟩ := Option.map_eq_some_iff.mp hrun
  have hcount : ∀ token, params.countP (standsFor token)
      = [("x", Location.path), ("y", .path), ("q", .query), ("x", .header),
          ("y", .path), ("w", .query)].countP
        fun (name, location) => location == .path && name == token := by
    intro token
    rw [← hlist, List.countP_map]
    rfl
  have hok := Steps.eq_ok_of_toOption hparams
  exact ⟨params, hok, parameters_declared hok, hlist, hcount "x", hcount "y"⟩

/-- A token does not always have one parameter: a declaration of it in octets
makes another one. -/
theorem not_forall_once :
    ¬ ∀ (d : Document) declared path params,
      d.parameters declared path = .ok params →
      ∀ token ∈ (pathTokens path.toList).map String.ofList,
        params.countP (standsFor token) = 1 := by
  intro hall
  have hrun : (blank.parameters [declaring octetsOfY (.text "path")]
      "/\x7by\x7d").toOption.map (·.countP (standsFor "y")) = some 2 := by
    decide +kernel
  obtain ⟨params, hparams, hcount⟩ := Option.map_eq_some_iff.mp hrun
  rw [hall _ _ _ params (Steps.eq_ok_of_toOption hparams) "y"
    (by decide +kernel)] at hcount
  cases hcount

end Document

end Toolsmith
