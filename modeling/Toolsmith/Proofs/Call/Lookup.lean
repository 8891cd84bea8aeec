/-
Which endpoint a name finds, and which ones an intent.

An endpoint of exactly that name is found before any that only mentions it, so
in a catalog whose names are distinct every endpoint is found by its own name,
whatever the names and the descriptions in front of it hold. A name that no
endpoint has finds the first one that mentions it when case does not count, and
nothing is found only where no endpoint does either.

For an intent an endpoint is searched as one text, its name, its description and
its path with a space in each gap, put into lower case as a whole. That is the
same as searching the three of them one by one, each in its own lower case: a
space has no part in what letters turn into, and no word of an intent has one,
so none can begin in front of a gap and end behind it. Nothing of an intent
counts then but which words it has.
-/
import Mathlib.Data.List.Infix
import Toolsmith.Call.Lookup
import Toolsmith.Proofs.Generate.Callable
import Toolsmith.Proofs.Text.Lines
import Toolsmith.Proofs.Text.Replace

namespace Toolsmith

open Text

namespace Catalog

/-- The name or the description of an endpoint holds a text when case does not
count. -/
def Holds (text : String) (e : Endpoint) : Prop :=
  lower text.toList <:+: lower e.name.toList
    ∨ lower text.toList <:+: lower e.description.toList

/-- The first endpoint of a catalog that fits. -/
def IsFirst (fits : Endpoint → Prop) (endpoints : List Endpoint)
    (e : Endpoint) : Prop :=
  fits e ∧ ∃ before after, endpoints = before ++ e :: after
    ∧ ∀ x ∈ before, ¬ fits x

variable {endpoints : List Endpoint} {name : String} {e : Endpoint}

/-- What a search finds is the first endpoint that fits. -/
theorem find?_eq_some_iff_isFirst {test : Endpoint → Bool}
    {fits : Endpoint → Prop} (h : ∀ x, test x = true ↔ fits x)
    (endpoints : List Endpoint) (e : Endpoint) :
    endpoints.find? test = some e ↔ IsFirst fits endpoints e := by
  rw [List.find?_eq_some_iff_append, h]
  simp only [Bool.not_eq_true', ← Bool.not_eq_true, h, IsFirst]

/-- The looser of the two searches is for the endpoints that hold the name. -/
theorem occursIn_iff_holds (name : String) (x : Endpoint) :
    (occursIn name x.name || occursIn name x.description) = true
      ↔ Holds name x := by
  rw [Bool.or_eq_true, occursIn, occursIn, contains_iff_isInfix,
    contains_iff_isInfix, Holds]

/-- A name finds the first endpoint that has it, or else the first one that
holds it. -/
theorem findByName_eq_some_iff (hname : name ≠ "") :
    findByName endpoints name = some e
      ↔ IsFirst (fun x => x.name = name) endpoints e
        ∨ (∀ x ∈ endpoints, x.name ≠ name)
          ∧ IsFirst (Holds name) endpoints e := by
  have hexact := find?_eq_some_iff_isFirst
    (fun x : Endpoint => @beq_iff_eq _ _ _ x.name name) endpoints e
  have hloose := find?_eq_some_iff_isFirst (occursIn_iff_holds name)
    endpoints e
  rw [findByName, if_neg (by simpa using hname), Option.or_eq_some_iff,
    hexact, hloose, List.find?_eq_none]
  simp only [beq_iff_eq, ne_eq]

/-- A name finds nothing where no endpoint has or holds it. -/
theorem findByName_eq_none_iff (hname : name ≠ "") :
    findByName endpoints name = none
      ↔ ∀ x ∈ endpoints, x.name ≠ name ∧ ¬ Holds name x := by
  rw [findByName, if_neg (by simpa using hname), Option.or_eq_none_iff,
    List.find?_eq_none, List.find?_eq_none, ← forall₂_and]
  simp only [occursIn_iff_holds, beq_iff_eq, ne_eq]

/-- Where names are distinct, an endpoint is the first one of its name. -/
theorem isFirst_own (hnodup : (endpoints.map (·.name)).Nodup)
    (he : e ∈ endpoints) : IsFirst (fun x => x.name = e.name) endpoints e := by
  obtain ⟨before, after, rfl⟩ := List.append_of_mem he
  refine ⟨rfl, before, after, rfl, fun x hx hsame => ?_⟩
  rw [List.map_append, List.nodup_append] at hnodup
  exact hnodup.2.2 x.name (List.mem_map_of_mem hx) e.name
    List.mem_cons_self hsame

end Catalog

namespace Document

open Catalog

variable {d : Document}

/-- The names of a catalog are distinct. -/
theorem nodup_names_of_catalog {endpoints : List Endpoint}
    {reports : List Log.Entry} (h : d.catalog = .ok (endpoints, reports)) :
    (endpoints.map (·.name)).Nodup := by
  obtain ⟨_, _, -, -, -, hnames⟩ := catalog_eq_ok h
  rw [hnames]
  exact nodup_map_ofList (Naming.nodup_deduplicate _)

/-- Every endpoint of a document's server is found by its own name. In any
catalog, a name finds the first endpoint that has it; if there is none, the
first one whose name or description holds it when case does not count; and
nothing exactly if no endpoint has or holds it. -/
theorem server_findByName :
    (∀ (d : Document) (s : Server) reports, d.server = .ok (s, reports) →
        ∀ e ∈ s.endpoints, findByName s.endpoints e.name = some e)
      ∧ ∀ (endpoints : List Endpoint) (name : String), name ≠ "" →
        (∀ e, findByName endpoints name = some e
            ↔ IsFirst (fun x => x.name = name) endpoints e
              ∨ (∀ x ∈ endpoints, x.name ≠ name)
                ∧ IsFirst (Holds name) endpoints e)
          ∧ (findByName endpoints name = none
            ↔ ∀ x ∈ endpoints, x.name ≠ name ∧ ¬ Holds name x) := by
  refine ⟨fun d s reports h e he => ?_, fun endpoints name hname =>
    ⟨fun e => findByName_eq_some_iff hname, findByName_eq_none_iff hname⟩⟩
  obtain ⟨⟨_, hcatalog⟩, -⟩ := catalog_of_server h
  have hcallable := isCallable_of_mem_catalog hcatalog he
  have hname := Generate.ne_empty_of_isIdentifier hcallable.name
  exact (findByName_eq_some_iff hname).mpr
    (Or.inl (isFirst_own (nodup_names_of_catalog hcatalog) he))

/-- A document with two operations, where the name and the description of the
first one hold the name of the second one. -/
def overlapping : Document :=
  let named (name text : String) : Value :=
    .ofFields [("operationId", .text name), ("summary", .text text)]
  let entries : List (Value × Value) :=
    [(.text "info", .ofFields [("title", .text "T")]),
     (.text "paths", .ofFields
      [("/a", .ofFields
        [("get", named "list_pets" "Lists pets"),
         ("post", named "pets" "Adds one")])])]
  ⟨.ofValue (.map entries), entries⟩

/-- The second endpoint of its server is found by its name. In capital letters
the name is that of no endpoint, and finds the first one that holds it. -/
theorem server_findByName_overlapping :
    ∃ s reports first second, overlapping.server = .ok (s, reports)
      ∧ s.endpoints = [first, second]
      ∧ findByName s.endpoints second.name = some second
      ∧ findByName s.endpoints "PETS" = some first := by
  have hrun : overlapping.server.toOption.map (fun made =>
      made.1.endpoints.map (·.name)) = some ["list_pets", "pets"] := by
    decide +kernel
  obtain ⟨⟨s, reports⟩, hmade, hnames⟩ := Option.map_eq_some_iff.mp hrun
  have hserver := Steps.eq_ok_of_toOption hmade
  obtain ⟨first, _, hboth, hfirst, hrest⟩ := List.map_eq_cons_iff.mp hnames
  obtain ⟨second, rfl, hsecond⟩ := List.map_eq_singleton_iff.mp hrest
  obtain ⟨hown, hany⟩ := server_findByName
  have hmem : second ∈ s.endpoints :=
    hboth ▸ List.mem_cons_of_mem _ List.mem_cons_self
  refine ⟨s, reports, first, second, hserver, hboth,
    hown _ s reports hserver second hmem,
    ((hany s.endpoints "PETS" (by decide)).1 first).mpr (Or.inr ⟨?_, ?_⟩)⟩
  · rw [hboth]
    simp only [List.forall_mem_cons, hfirst, hsecond]
    decide
  · refine ⟨Or.inl ?_, [], [second], hboth, fun x hx => (by cases hx)⟩
    rw [hfirst, ← contains_iff_isInfix]
    decide +kernel

end Document

-- ============================================================= intents

namespace Catalog

/-- A word stands in the name, the description or the path of an endpoint,
where each is in lower case. -/
def StandsIn (term : List Char) (e : Endpoint) : Prop :=
  term <:+: lower e.name.toList ∨ term <:+: lower e.description.toList
    ∨ term <:+: lower e.path.toList

/-- An endpoint fits an intent if a word of the intent stands in it. -/
def Fits (intent : String) (e : Endpoint) : Prop :=
  ∃ term ∈ terms intent, StandsIn term e

instance (term : List Char) (e : Endpoint) : Decidable (StandsIn term e) :=
  inferInstanceAs (Decidable (_ ∨ _ ∨ _))

instance (intent : String) (e : Endpoint) : Decidable (Fits intent e) :=
  inferInstanceAs (Decidable (∃ term ∈ terms intent, StandsIn term e))

variable {endpoints : List Endpoint} {intent more : String}

/-- What an endpoint says about itself is its name, its description and its
path, each in lower case. -/
theorem summary_eq (e : Endpoint) :
    summary e = lower e.name.toList ++ ' ' :: lower e.description.toList
      ++ ' ' :: lower e.path.toList := by
  rw [summary, lower_append_space, lower_append_space]

/-- A text without spaces stands in one of the three. -/
theorem infix_summary_iff {term : List Char} (h : ' ' ∉ term) (e : Endpoint) :
    term <:+: summary e ↔ StandsIn term e := by
  rw [summary_eq, infix_append_cons_iff h, infix_append_cons_iff h, or_assoc,
    StandsIn]

/-- No word of an intent has a space in it. -/
theorem space_not_mem_of_mem_terms {term : List Char}
    (h : term ∈ terms intent) : ' ' ∉ term := fun hspace =>
  absurd (isBlank_of_mem_words h ' ' hspace) (by decide)

/-- The endpoints with a word of an intent are those that fit it. -/
theorem mentions_iff_fits (e : Endpoint) :
    mentions (terms intent) e = true ↔ Fits intent e := by
  rw [mentions, List.any_eq_true, Fits]
  refine exists_congr fun term => and_congr_right fun hterm => ?_
  rw [contains_iff_isInfix,
    infix_summary_iff (space_not_mem_of_mem_terms hterm)]

/-- An intent finds the first of the endpoints that fit it. -/
theorem findByIntent_eq (endpoints : List Endpoint) (intent : String)
    (limit : Nat) :
    findByIntent endpoints intent limit
      = (endpoints.filter fun e => Fits intent e).take limit := by
  have hfilter : endpoints.filter (mentions (terms intent))
      = endpoints.filter fun e => Fits intent e :=
    List.filter_congr fun e _ =>
      Bool.eq_iff_iff.mpr ((mentions_iff_fits e).trans decide_eq_true_iff.symm)
  have hlimit : ¬ (limit : Int) < 0 := by omega
  rw [findByIntent, firstOf, if_neg hlimit, hfilter, Int.toNat_natCast]

/-- What fits an intent fits one that has all of its words. -/
theorem Fits.mono {e : Endpoint} (h : Fits intent e)
    (hmore : terms intent ⊆ terms more) : Fits more e := by
  obtain ⟨term, hterm, hstands⟩ := h
  exact ⟨term, hmore hterm, hstands⟩

/-- Words that are written behind an intent are added to its words. -/
theorem terms_append (intent more : String) :
    terms (intent ++ " " ++ more) = terms intent ++ terms more := by
  have htext : (intent ++ " " ++ more).toList
      = intent.toList ++ ' ' :: more.toList := by
    simp
  rw [terms, htext, lower_append_space,
    words_append_blank (by decide), terms, terms]

/-- An intent finds the endpoints that fit it, in the order of the catalog and
as many as the limit lets through. It is its words that count: intents with the
same words find the same. With more words, and without a limit that would leave
out any, everything is found that was found before; and words that are written
behind an intent are more words. -/
theorem findByIntent_fits (endpoints : List Endpoint) (intent : String) :
    (∀ limit : Nat,
        findByIntent endpoints intent limit
            = (endpoints.filter fun e => Fits intent e).take limit
          ∧ (findByIntent endpoints intent limit).length
            = min limit (endpoints.filter fun e => Fits intent e).length)
      ∧ (∀ other, (∀ term, term ∈ terms intent ↔ term ∈ terms other) →
        ∀ limit : Nat, findByIntent endpoints intent limit
          = findByIntent endpoints other limit)
      ∧ (∀ more, terms intent ⊆ terms more →
        ∀ limit : Nat, endpoints.length ≤ limit →
          (findByIntent endpoints intent limit).Sublist
            (findByIntent endpoints more limit))
      ∧ ∀ more, terms (intent ++ " " ++ more) = terms intent ++ terms more := by
  refine ⟨fun limit => ⟨findByIntent_eq endpoints intent limit, ?_⟩,
    fun other hsame limit => ?_, fun more hmore limit hlimit => ?_,
    terms_append intent⟩
  · rw [findByIntent_eq, List.length_take]
  · have hfits : ∀ e, Fits intent e ↔ Fits other e := fun e =>
      ⟨fun h => h.mono fun term hterm => (hsame term).mp hterm,
        fun h => h.mono fun term hterm => (hsame term).mpr hterm⟩
    rw [findByIntent_eq, findByIntent_eq]
    simp only [hfits]
  · have hall : ∀ searched : String, findByIntent endpoints searched limit
        = endpoints.filter fun e => Fits searched e := by
      intro searched
      rw [findByIntent_eq]
      exact List.take_of_length_le
        ((List.length_filter_le _ _).trans hlimit)
    rw [hall, hall]
    refine List.monotone_filter_right endpoints fun e he => ?_
    simpa using (of_decide_eq_true he).mono hmore

/-- A catalog with a capital sigma at the end of a description. -/
def streets : List Endpoint :=
  let endpoint (name description path : String) : Endpoint :=
    { id := name, name, method := "GET", path, description, parameters := []
      requestBody := .null, response := .null }
  [endpoint "list_pets" "Lists pets" "/pets",
   endpoint "get_street" "ΟΔΟΣ" "/streets"]

/-- The sigma is in its final form there, as it is in an intent, though a path
follows. Case, order and repetition of words are all one, and a word more finds
an endpoint more. -/
theorem findByIntent_fits_streets :
    (findByIntent streets "οδος" 3).map (·.id) = ["get_street"]
      ∧ findByIntent streets "ΟΔΟΣ  pets" 1
        = findByIntent streets "pets PETS οδος" 1
      ∧ (findByIntent streets "ΟΔΟΣ" 2).Sublist
        (findByIntent streets ("ΟΔΟΣ" ++ " " ++ "pets") 2)
      ∧ (findByIntent streets ("ΟΔΟΣ" ++ " " ++ "pets") 2).map (·.id)
        = ["list_pets", "get_street"] := by
  have hcapital : terms "ΟΔΟΣ  pets" = ["οδος".toList, "pets".toList] := by
    decide +kernel
  have hsmall : terms "pets PETS οδος"
      = ["pets".toList, "pets".toList, "οδος".toList] := by
    decide +kernel
  obtain ⟨-, hsame, -, -⟩ := findByIntent_fits streets "ΟΔΟΣ  pets"
  obtain ⟨-, -, hmore, hadded⟩ := findByIntent_fits streets "ΟΔΟΣ"
  refine ⟨by decide +kernel, hsame _ (fun term => ?_) 1, hmore _ ?_ 2 ?_,
    by decide +kernel⟩
  · rw [hcapital, hsmall]
    simp [or_comm]
  · rw [hadded]
    exact List.subset_append_left _ _
  · exact Nat.le_refl 2

end Catalog

end Toolsmith
