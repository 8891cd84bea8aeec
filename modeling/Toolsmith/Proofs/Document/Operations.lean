/-
Which operations a catalog is made of. Of the entries of all path items those
count whose key is a verb in some spelling and whose value is a mapping; items
that are no mappings have no entries. The endpoints are these entries, every
one of them and nothing else, in the order of the document; and what an
endpoint holds besides its id and its name comes out of its own entry, no
matter which names had to change.
-/
import Toolsmith.Proofs.Document.Catalog

namespace Toolsmith.Document

open Text

-- ============================================================== entries

/-- An entry of a path item, with the path and the item that it stands
in. -/
structure ItemEntry where
  path : Value
  item : Value
  key : Value
  body : Value

namespace ItemEntry

/-- A mapping under a key that is a verb if case does not matter. -/
def isOperation (x : ItemEntry) : Bool :=
  x.body.isMap
    && x.key.text?.any fun s => verbs.contains (String.ofList (lower s.toList))

/-- The key in upper case, if it is a text. -/
def method? (x : ItemEntry) : Option String :=
  x.key.text?.map fun s => String.ofList (upper s.toList)

/-- The entry as an operation, if it is one. -/
def operation (x : ItemEntry) : Operation :=
  ⟨x.path, x.item, x.key.text?.getD "", x.body⟩

end ItemEntry

/-- The entries of one path item, if it is a mapping. -/
def entriesOf (d : Document) (path item : Value) : List ItemEntry :=
  match d.look item with
  | .map entries => entries.map fun (key, body) => ⟨path, item, key, body⟩
  | _ => []

/-- The entries of all path items, in the order of the document. -/
def itemEntries (d : Document) : List ItemEntry :=
  match d.look (d.field "paths") with
  | .map paths => paths.flatMap fun (path, item) => d.entriesOf path item
  | _ => []

variable {d : Document}

-- =========================================================== operations

/-- A key that is a verb makes an operation of the entry if a mapping stands
under it. -/
theorem verb?_key (x : ItemEntry) :
    x.isOperation = (x.body.isMap && (verb? x.key).isSome) := by
  unfold ItemEntry.isOperation verb?
  rw [Option.isSome_filter]

/-- The verb of an operation is its key. -/
theorem operation_of_verb? {x : ItemEntry} {verb : String}
    (h : verb? x.key = some verb) :
    x.operation = ⟨x.path, x.item, verb, x.body⟩ := by
  obtain ⟨hkey, -⟩ := Option.filter_eq_some_iff.mp h
  unfold ItemEntry.operation
  rw [hkey]
  rfl

/-- The operations of a path item are those of its entries that are
operations. -/
theorem itemOperations_eq (path item : Value) :
    d.itemOperations path item
      = ((d.entriesOf path item).filter ItemEntry.isOperation).map
          ItemEntry.operation := by
  unfold itemOperations entriesOf
  cases d.look item with
  | map entries =>
      dsimp only
      induction entries with
      | nil => rfl
      | cons entry rest ih =>
          obtain ⟨key, body⟩ := entry
          rw [List.filterMap_cons, List.map_cons, List.filter_cons, ih,
            verb?_key]
          dsimp only
          cases hverb : verb? key with
          | none =>
              rw [Option.isSome_none, Bool.and_false]
              rfl
          | some verb =>
              rw [Option.isSome_some, Bool.and_true]
              dsimp only
              cases body.isMap with
              | false => rfl
              | true =>
                  rw [if_pos rfl, if_pos rfl, List.map_cons,
                    operation_of_verb? hverb]
  | _ => rfl

/-- A value that counts as missing is no mapping with entries. -/
theorem itemEntries_of_not_isTruthy
    (h : (d.field "paths").isTruthy = false) : d.itemEntries = [] := by
  unfold itemEntries
  cases hpaths : d.field "paths" with
  | map paths =>
      rw [hpaths] at h
      cases paths with
      | nil => rfl
      | cons path rest => cases h
  | loop number mapping =>
      rw [hpaths] at h
      cases h
  | _ => rfl

/-- The operations of a document are those of its entries that are
operations. -/
theorem operations_eq_ok {ops : List Operation} (h : d.operations = .ok ops) :
    ops = (d.itemEntries.filter ItemEntry.isOperation).map
      ItemEntry.operation := by
  unfold operations at h
  dsimp only at h
  split at h
  next hmissing =>
    cases h
    rw [itemEntries_of_not_isTruthy (Bool.not_eq_true' _ ▸ hmissing)]
    rfl
  · split at h
    next paths hpaths =>
      cases h
      simp only [itemEntries, hpaths, itemOperations_eq, List.filter_flatMap,
        List.map_flatMap]
    next => cases h

-- ============================================================== catalog

/-- The endpoints of a catalog are the entries of the document that are
operations: their methods and paths are the keys in upper case and the paths of
these entries, one for one and in the order of the document, and the
description, the parameters and the two bodies of an endpoint come out of the
entry in its own place. -/
theorem catalog_operations {endpoints : List Endpoint}
    {reports : List Log.Entry} (h : d.catalog = .ok (endpoints, reports)) :
    endpoints.map (fun e => (some e.method, Value.text e.path))
        = (d.itemEntries.filter ItemEntry.isOperation).map
            (fun x => (x.method?, x.path))
      ∧ List.Forall₂ (fun x e => DrawnFrom d x.operation e)
          (d.itemEntries.filter ItemEntry.isOperation) endpoints := by
  obtain ⟨ops, hops, hdrawn⟩ := drawnFrom_of_catalog h
  rw [operations_eq_ok hops, List.forall₂_map_left_iff] at hdrawn
  refine ⟨?_, hdrawn⟩
  have hmethod : ∀ x ∈ d.itemEntries.filter ItemEntry.isOperation,
      x.method? = some (String.ofList x.operation.method) := by
    intro x hx
    have hop := (List.mem_filter.mp hx).2
    rw [verb?_key, Bool.and_eq_true] at hop
    obtain ⟨verb, hverb⟩ := Option.isSome_iff_exists.mp hop.2
    obtain ⟨hkey, -⟩ := Option.filter_eq_some_iff.mp hverb
    unfold ItemEntry.method?
    rw [operation_of_verb? hverb, hkey]
    rfl
  clear h hops
  generalize d.itemEntries.filter ItemEntry.isOperation = entries
    at hdrawn hmethod
  induction hdrawn with
  | nil => rfl
  | @cons x e _ _ hfrom _ ih =>
      obtain ⟨hx, hrest⟩ := List.forall_mem_cons.mp hmethod
      have hpath : x.path = .text e.path := hfrom.path
      rw [List.map_cons, List.map_cons, ih hrest, hx, hpath, hfrom.method]

/-- A document with one verb in two spellings on one path, entries that are no
operations between them, an item that is no mapping, and a name that is taken
twice. -/
def mixed : Document :=
  let summed (text : String) : Value := .ofFields [("summary", .text text)]
  let paths : List (Value × Value) :=
    [(.text "paths", .ofFields
      [("/a/\x7bid\x7d", .map
        [(.text "parameters", .list []), (.text "get", summed "first"),
         (.int 7, summed "no text"), (.text "x-get", summed "no verb"),
         (.text "GET", summed "second"), (.text "post", .text "no mapping")]),
       ("/b", .list [summed "no item"]),
       ("/c", .ofFields
        [("Delete", .ofFields
          [("operationId", .text "get_a_id_"), ("requestBody", .int 1)])])])]
  ⟨.ofValue (.map paths), paths⟩

/-- The catalog of this document has the three operations in order, under names
that had to change, and each endpoint is drawn from its own entry. -/
theorem catalog_operations_mixed :
    ∃ endpoints reports, mixed.catalog = .ok (endpoints, reports)
      ∧ endpoints.map (·.name) = ["get_a_id_", "get_a_id__2", "get_a_id__3"]
      ∧ endpoints.map (fun e => (some e.method, Value.text e.path))
        = (mixed.itemEntries.filter ItemEntry.isOperation).map
            (fun x => (x.method?, x.path))
      ∧ List.Forall₂ (fun x e => DrawnFrom mixed x.operation e)
          (mixed.itemEntries.filter ItemEntry.isOperation) endpoints
      ∧ endpoints.map (fun e => (e.method, e.path, e.description))
        = [("GET", "/a/\x7bid\x7d", "first"),
           ("GET", "/a/\x7bid\x7d", "second"),
           ("DELETE", "/c", "DELETE /c")] := by
  have hrun : mixed.catalog.toOption.map (fun made =>
      (made.1.map (·.name),
        made.1.map (fun e => (e.method, e.path, e.description)))) = some
      (["get_a_id_", "get_a_id__2", "get_a_id__3"],
       [("GET", "/a/\x7bid\x7d", "first"),
        ("GET", "/a/\x7bid\x7d", "second"),
        ("DELETE", "/c", "DELETE /c")]) := by
    decide +kernel
  cases h : mixed.catalog with
  | error fault => rw [h] at hrun; cases hrun
  | ok made =>
      rw [h] at hrun
      obtain ⟨hmethods, hdrawn⟩ := catalog_operations h
      exact ⟨made.1, made.2, rfl, congrArg Prod.fst (Option.some.inj hrun),
        hmethods, hdrawn, congrArg Prod.snd (Option.some.inj hrun)⟩

end Toolsmith.Document
