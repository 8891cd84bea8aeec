/-
What a catalog is made of. Every operation of a document becomes a draft, and
every draft an endpoint under the id and the name that are left for it when
repetitions are numbered. Numbering gives back as many names as it takes, so
drafts, ids and names stay side by side; and nothing but the id and the name
of an endpoint comes from outside of its own operation.
-/
import Toolsmith.Document.Catalog
import Toolsmith.Proofs.Naming
import Toolsmith.Proofs.Shape
import Toolsmith.Proofs.Steps

namespace Toolsmith.Document

/-- What an endpoint has from its operation: everything but its id and its
name. -/
structure DrawnFrom (d : Document) (op : Operation) (e : Endpoint) :
    Prop where
  path : op.path = .text e.path
  method : e.method = String.ofList op.method
  description : Shape.text ((d.fieldOf op.body "summary").orElse
      ((d.fieldOf op.body "description").orElse
        (.text (e.method ++ " " ++ e.path)))) = .ok e.description
  parameters : ∃ declared, d.declaredParameters op = .ok declared
    ∧ d.parameters declared e.path = .ok e.parameters
  requestBody : e.requestBody = d.whole (d.fieldOf op.body "requestBody")
  response : e.response = d.whole (d.fieldOf op.body "responses")

variable {d : Document}

/-- What a draft has from its operation. -/
theorem draft_eq_ok {op : Operation} {dr : Draft} (h : d.draft op = .ok dr) :
    d.idOf op = .ok dr.id ∧ d.nameOf op dr.id = .ok dr.name
      ∧ op.path = .text dr.path
      ∧ (∃ declared, d.declaredParameters op = .ok declared
        ∧ d.parameters declared dr.path = .ok dr.parameters)
      ∧ dr.method = String.ofList op.method
      ∧ dr.description = d.descriptionOf op dr.path
      ∧ dr.requestBody = d.whole (d.fieldOf op.body "requestBody")
      ∧ dr.response = d.whole (d.fieldOf op.body "responses") := by
  obtain ⟨id, hid, h⟩ := Steps.bind_eq_ok.mp h
  obtain ⟨name, hname, h⟩ := Steps.bind_eq_ok.mp h
  obtain ⟨declared, hdeclared, h⟩ := Steps.bind_eq_ok.mp h
  split at h
  next path hpath =>
    obtain ⟨params, hparams, h⟩ := Steps.bind_eq_ok.mp h
    cases h
    exact ⟨hid, hname, hpath, ⟨declared, hdeclared, hparams⟩, rfl, rfl, rfl,
      rfl⟩
  next => cases h

/-- An endpoint takes the id and the name that are given to it, and everything
else from its draft. -/
theorem Draft.endpoint_eq_ok {dr : Draft} {id name : List Char}
    {e : Endpoint} (h : dr.endpoint id name = .ok e) :
    Shape.text dr.description = .ok e.description
      ∧ e = ⟨String.ofList id, String.ofList name, dr.method, dr.path,
        e.description, dr.parameters, dr.requestBody, dr.response⟩ := by
  obtain ⟨description, hchecked, h⟩ := Steps.bind_eq_ok.mp h
  cases h
  exact ⟨Shape.Checked.under_eq_ok.mp (Failure.ofChecked_eq_ok.mp hchecked),
    rfl⟩

/-- The endpoint of a draft is drawn from the operation of the draft,
whatever id and name it is given. -/
theorem drawnFrom_of_draft {op : Operation} {dr : Draft}
    (hdraft : d.draft op = .ok dr) {id name : List Char} {e : Endpoint}
    (hendpoint : dr.endpoint id name = .ok e) : DrawnFrom d op e := by
  obtain ⟨-, -, hpath, hparams, hmethod, htext, hbody, hresponse⟩ :=
    draft_eq_ok hdraft
  obtain ⟨hdescription, he⟩ := Draft.endpoint_eq_ok hendpoint
  rw [he]
  refine ⟨hpath, hmethod, ?_, hparams, hbody, hresponse⟩
  rw [← hdescription, htext, hmethod]
  rfl

/-- As many final ids and names as there are drafts. -/
theorem map_fst_finalNames (drafts : List Draft) :
    (finalNames drafts).map Prod.fst = drafts := by
  unfold finalNames
  rw [List.map_fst_zip]
  simp [Naming.length_deduplicate]

/-- The endpoints of a catalog are made from the drafts of its operations with
their final ids and names, one from each and in order. -/
theorem endpoints_of_catalog {endpoints : List Endpoint}
    {reports : List Log.Entry} (h : d.catalog = .ok (endpoints, reports)) :
    ∃ ops drafts, d.operations = .ok ops ∧ ops.mapM d.draft = .ok drafts
      ∧ List.Forall₂ (fun named e => named.1.endpoint named.2.1 named.2.2
        = .ok e) (finalNames drafts) endpoints := by
  obtain ⟨ops, hops, h⟩ := Steps.bind_eq_ok.mp h
  obtain ⟨drafts, hdrafts, h⟩ := Steps.bind_eq_ok.mp h
  obtain ⟨made, hmade, h⟩ := Steps.bind_eq_ok.mp h
  cases h
  exact ⟨ops, drafts, hops, hdrafts, Steps.forall₂_of_mapM hmade⟩

/-- The endpoints of a catalog are drawn from the operations of the document,
one from each and in order. -/
theorem drawnFrom_of_catalog {endpoints : List Endpoint}
    {reports : List Log.Entry} (h : d.catalog = .ok (endpoints, reports)) :
    ∃ ops, d.operations = .ok ops
      ∧ List.Forall₂ (DrawnFrom d) ops endpoints := by
  obtain ⟨ops, drafts, hops, hdrafts, hmade⟩ := endpoints_of_catalog h
  have hnamed : List.Forall₂
      (fun dr e => ∃ id name, dr.endpoint id name = .ok e) drafts
      endpoints := by
    rw [← map_fst_finalNames drafts, List.forall₂_map_left_iff]
    exact hmade.imp fun named e he => ⟨named.2.1, named.2.2, he⟩
  refine ⟨ops, hops, Steps.forall₂_trans ?_
    (Steps.forall₂_of_mapM hdrafts) hnamed⟩
  rintro op dr e hdraft ⟨id, name, hendpoint⟩
  exact drawnFrom_of_draft hdraft hendpoint

end Toolsmith.Document
