/-
What a document's server brings to the generator. Ids and names of its
endpoints are identifiers, and so are the methods, since a verb is one of
eight words. So every endpoint gets a tool, and the three may stand bare in
a source. The code that the server keeps is the source for each target.
-/
import Toolsmith.Document.Server
import Toolsmith.Proofs.Document.Catalog
import Toolsmith.Proofs.Document.Identifiers
import Toolsmith.Proofs.Text.Case

namespace Toolsmith

open Naming (isIdentifier)
open Text

/-- The id, the name and the method of an endpoint are identifiers. -/
structure Endpoint.IsCallable (e : Endpoint) : Prop where
  id : isIdentifier e.id.toList = true
  name : isIdentifier e.name.toList = true
  method : isIdentifier e.method.toList = true

namespace Generate

/-- An identifier is not the empty text. -/
theorem ne_empty_of_isIdentifier {s : String}
    (h : isIdentifier s.toList = true) : s ≠ "" := by
  rintro rfl
  cases h

/-- A callable endpoint has all that a declaration needs. -/
theorem isDeclarable_of_isCallable {e : Endpoint} (h : e.IsCallable) :
    isDeclarable e = true := by
  have hne := ne_empty_of_isIdentifier h.id
  have hname := ne_empty_of_isIdentifier h.name
  have hmethod := ne_empty_of_isIdentifier h.method
  simp [isDeclarable, hne, hname, hmethod]

/-- Every callable endpoint gets a tool. -/
theorem tools_of_isCallable {s : Server}
    (h : ∀ e ∈ s.endpoints, e.IsCallable) :
    tools s = s.endpoints.map .ofEndpoint := by
  unfold tools
  rw [List.filter_eq_self.mpr]
  exact fun e he => isDeclarable_of_isCallable (h e he)

/-- No callable endpoint is skipped. -/
theorem skipped_of_isCallable {s : Server}
    (h : ∀ e ∈ s.endpoints, e.IsCallable) : skipped s = [] := by
  unfold skipped
  rw [List.filter_eq_nil_iff.mpr, List.map_nil]
  intro e he
  rw [isDeclarable_of_isCallable (h e he)]
  decide

end Generate

namespace Document

variable {d : Document}

/-- The method of an operation is a word of letters. -/
theorem isIdentifier_method {op : Operation}
    (h : String.ofList op.lowerVerb ∈ verbs) :
    isIdentifier op.method = true := by
  have hverbs : verbs.all (fun verb => verb.toList.all isPlainLower
      && !verb.toList.isEmpty) = true := by
    decide
  have hverb := List.all_eq_true.mp hverbs _ h
  rw [String.toList_ofList, Bool.and_eq_true] at hverb
  obtain ⟨hplain, hne⟩ := hverb
  obtain ⟨hletters, hlength⟩ := upper_of_lower hplain
  unfold Operation.method
  cases hupper : upper op.verb.toList with
  | nil =>
      rw [hupper] at hlength
      have hnil : op.verb.toList = [] := List.length_eq_zero_iff.mp hlength.symm
      rw [Operation.lowerVerb, hnil] at hne
      cases hne
  | cons c rest =>
      rw [hupper, List.all_cons, Bool.and_eq_true] at hletters
      obtain ⟨hc, hrest⟩ := hletters
      show ((isAsciiLetter c || c == '_') && rest.all isNameChar) = true
      rw [hc, Bool.true_or, Bool.true_and]
      refine List.all_eq_true.mpr fun x hx => ?_
      refine Naming.isNameChar_of_isLead ?_
      rw [List.all_eq_true.mp hrest x hx]
      rfl

/-- An endpoint has the method of an operation. -/
theorem exists_operation_of_mem_catalog {endpoints : List Endpoint}
    {reports : List Log.Entry} (h : d.catalog = .ok (endpoints, reports))
    {e : Endpoint} (he : e ∈ endpoints) :
    ∃ ops, d.operations = .ok ops
      ∧ ∃ op ∈ ops, e.method = String.ofList op.method := by
  obtain ⟨ops, hops, hdrawn⟩ := drawnFrom_of_catalog h
  obtain ⟨op, hop, hfrom⟩ := Steps.exists_of_mem_forall₂ hdrawn he
  exact ⟨ops, hops, op, hop, hfrom.method⟩

/-- The endpoints of a catalog are callable. -/
theorem isCallable_of_mem_catalog {endpoints : List Endpoint}
    {reports : List Log.Entry} (h : d.catalog = .ok (endpoints, reports))
    {e : Endpoint} (he : e ∈ endpoints) : e.IsCallable := by
  obtain ⟨hid, hname⟩ := isIdentifier_of_mem_catalog h he
  obtain ⟨ops, hops, op, hop, hmethod⟩ := exists_operation_of_mem_catalog h he
  refine ⟨hid, hname, ?_⟩
  rw [hmethod, String.toList_ofList]
  exact isIdentifier_method (verbs_of_mem_operations hops hop)

/-- What a document that is accepted gives: the endpoints of its catalog, and
the source for each target. -/
theorem catalog_of_server {s : Server} {reports : List Log.Entry}
    (h : d.server = .ok (s, reports)) :
    (∃ found, d.catalog = .ok (s.endpoints, found))
      ∧ ∀ t : Generate.Target, s.codeFor t.name = some (t.source s) := by
  obtain ⟨info, -, h⟩ := Steps.bind_eq_ok.mp h
  obtain ⟨_, -, h⟩ := Steps.bind_eq_ok.mp h
  obtain ⟨⟨endpoints, found⟩, hcatalog, h⟩ := Steps.bind_eq_ok.mp h
  dsimp only at h
  split at h
  · cases h
  obtain ⟨title, -, h⟩ := Steps.bind_eq_ok.mp h
  obtain ⟨version, -, h⟩ := Steps.bind_eq_ok.mp h
  obtain ⟨baseUrl, -, h⟩ := Steps.bind_eq_ok.mp h
  obtain ⟨description, -, h⟩ := Steps.bind_eq_ok.mp h
  cases h
  refine ⟨⟨found, hcatalog⟩, ?_⟩
  intro t
  cases t <;> rfl

/-- The endpoints of an accepted document are callable, and its server keeps
the source for each target. -/
theorem server_eq_ok {s : Server} {reports : List Log.Entry}
    (h : d.server = .ok (s, reports)) :
    (∀ e ∈ s.endpoints, e.IsCallable)
      ∧ ∀ t : Generate.Target, s.codeFor t.name = some (t.source s) := by
  obtain ⟨⟨_, hcatalog⟩, hcode⟩ := catalog_of_server h
  exact ⟨fun e he => isCallable_of_mem_catalog hcatalog he, hcode⟩

end Document

end Toolsmith
