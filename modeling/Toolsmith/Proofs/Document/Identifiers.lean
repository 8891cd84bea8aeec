/-
The ids and the names of a catalog. Whatever the paths, the verbs and the
declared names of a document are, its endpoints have pairwise distinct ids
and pairwise distinct names, and all of them are identifiers.

The id of an operation begins with its verb, which is one of eight words, so
sanitizing leaves a letter in front. A declared name goes through
`toIdentifier`, which asks for a text that is not empty; a declaration that
counts is never displayed as the empty text (`Document.display_ne_nil`). The
numbering of repetitions then keeps identifiers and tells repetitions apart,
separately for ids and for names.
-/
import Toolsmith.Proofs.Document.Operations
import Toolsmith.Proofs.Value.Display

namespace Toolsmith.Document

open Naming (isIdentifier)
open Text

variable {d : Document}

-- =============================================================== verbs

/-- Every verb begins with a letter. -/
theorem letter_of_mem_verbs :
    ∀ verb ∈ verbs, ∃ c rest, verb.toList = c :: rest
      ∧ isAsciiLetter c = true := by
  intro verb hverb
  have hall : verbs.all (fun verb =>
      (verb.toList.head?.map isAsciiLetter).getD false) = true := by
    decide
  have h := List.all_eq_true.mp hall verb hverb
  cases hs : verb.toList with
  | nil => rw [hs] at h; cases h
  | cons c rest => rw [hs] at h; exact ⟨c, rest, rfl, h⟩

/-- The key of an operation is a verb in some spelling. -/
theorem verbs_of_mem_operations {ops : List Operation}
    (hops : d.operations = .ok ops) {op : Operation} (hop : op ∈ ops) :
    String.ofList op.lowerVerb ∈ verbs := by
  rw [operations_eq_ok hops] at hop
  obtain ⟨x, hx, rfl⟩ := List.mem_map.mp hop
  have hkey := (List.mem_filter.mp hx).2
  rw [verb?_key, Bool.and_eq_true] at hkey
  obtain ⟨verb, hverb⟩ := Option.isSome_iff_exists.mp hkey.2
  rw [operation_of_verb? hverb]
  exact List.contains_iff_mem.mp (Option.filter_eq_some_iff.mp hverb).2

-- ============================================================== drafts

/-- The id of an operation begins with its verb. -/
theorem prefix_idOf {op : Operation} {id : List Char}
    (hverb : String.ofList op.lowerVerb ∈ verbs)
    (h : d.idOf op = .ok id) : op.lowerVerb <+: id := by
  obtain ⟨shown, -, h⟩ := Steps.bind_eq_ok.mp h
  cases h
  have hletters : verbs.all (fun verb =>
      verb.toList.all fun c => isNameChar c && c != '_') = true := by
    decide
  have hall := List.all_eq_true.mp hletters _ hverb
  rw [String.toList_ofList] at hall
  refine Naming.prefix_sanitize (fun c hc => ?_) _
  have hletter := List.all_eq_true.mp hall c hc
  rw [Bool.and_eq_true] at hletter
  exact ⟨hletter.1, bne_iff_ne.mp hletter.2⟩

/-- The id of an operation is an identifier: it begins with the verb. -/
theorem isIdentifier_idOf {op : Operation} {id : List Char}
    (hverb : String.ofList op.lowerVerb ∈ verbs)
    (h : d.idOf op = .ok id) : isIdentifier id = true := by
  obtain ⟨shown, -, h⟩ := Steps.bind_eq_ok.mp h
  cases h
  obtain ⟨c, rest, hword, hc⟩ := letter_of_mem_verbs _ hverb
  rw [String.toList_ofList] at hword
  rw [hword]
  exact Naming.isIdentifier_sanitize hc

/-- The name of an operation is an identifier: it is the id, or made from a
declaration that is not empty. -/
theorem isIdentifier_nameOf {op : Operation} {id name : List Char}
    (hid : isIdentifier id = true) (h : d.nameOf op id = .ok name) :
    isIdentifier name = true := by
  unfold nameOf at h
  dsimp only at h
  split at h
  case isTrue htruthy =>
      obtain ⟨shown, hshown, h⟩ := Steps.bind_eq_ok.mp h
      cases h
      exact Naming.isIdentifier_toIdentifier
        (Document.display_ne_nil htruthy hshown)
  case isFalse => cases h; exact hid

/-- The name of an operation is squeezed, whether it is the id or made from a
declaration. -/
theorem isSqueezed_nameOf {op : Operation} {id name : List Char}
    (hid : d.idOf op = .ok id) (h : d.nameOf op id = .ok name) :
    Naming.IsSqueezed name := by
  unfold nameOf at h
  dsimp only at h
  split at h
  case isTrue =>
      obtain ⟨shown, -, h⟩ := Steps.bind_eq_ok.mp h
      cases h
      exact fun hmarks => absurd hmarks (Naming.not_infix_toIdentifier shown)
  case isFalse =>
      cases h
      obtain ⟨shown, -, hid⟩ := Steps.bind_eq_ok.mp hid
      cases hid
      exact fun hmarks => absurd hmarks (Naming.not_infix_sanitize _)

/-- The id and the name of a draft are identifiers. -/
theorem isIdentifier_draft {op : Operation} {dr : Draft}
    (hverb : String.ofList op.lowerVerb ∈ verbs)
    (h : d.draft op = .ok dr) :
    isIdentifier dr.id = true ∧ isIdentifier dr.name = true := by
  obtain ⟨hid, hname, -⟩ := draft_eq_ok h
  have hidok := isIdentifier_idOf hverb hid
  exact ⟨hidok, isIdentifier_nameOf hidok hname⟩

-- ============================================================= catalog

/-- The endpoints of a catalog have the final ids and names of the drafts,
one each and in order. -/
theorem catalog_eq_ok {endpoints : List Endpoint}
    {reports : List Log.Entry} (h : d.catalog = .ok (endpoints, reports)) :
    ∃ ops drafts, d.operations = .ok ops ∧ ops.mapM d.draft = .ok drafts
      ∧ endpoints.map (·.id) = (Naming.deduplicate
          (drafts.map (·.id))).map String.ofList
      ∧ endpoints.map (·.name) = (Naming.deduplicate
          (drafts.map (·.name))).map String.ofList := by
  obtain ⟨ops, drafts, hops, hdrafts, hall⟩ := endpoints_of_catalog h
  -- endpoint by endpoint, the two texts are those that were zipped to it
  have hzip : ∀ {named : List (Draft × List Char × List Char)}
      {made : List Endpoint},
      List.Forall₂ (fun x e => x.1.endpoint x.2.1 x.2.2 = .ok e)
        named made →
      made.map (·.id) = (named.map (·.2.1)).map String.ofList
        ∧ made.map (·.name) = (named.map (·.2.2)).map String.ofList := by
    intro named made hall
    induction hall with
    | nil => exact ⟨rfl, rfl⟩
    | cons hx _ ih =>
        obtain ⟨-, he⟩ := Draft.endpoint_eq_ok hx
        simp only [List.map_cons]
        rw [he, ih.1, ih.2]
        exact ⟨rfl, rfl⟩
  obtain ⟨hids, hnames⟩ := hzip hall
  refine ⟨ops, drafts, hops, hdrafts, ?_, ?_⟩
  · rw [hids]
    congr 1
    show ((drafts.zip ((Naming.deduplicate (drafts.map (·.id))).zip
      (Naming.deduplicate (drafts.map (·.name))))).map
        (Prod.fst ∘ Prod.snd)) = _
    rw [← List.map_map, List.map_snd_zip, List.map_fst_zip]
    · simp [Naming.length_deduplicate]
    · simp [Naming.length_deduplicate]
  · rw [hnames]
    congr 1
    show ((drafts.zip ((Naming.deduplicate (drafts.map (·.id))).zip
      (Naming.deduplicate (drafts.map (·.name))))).map
        (Prod.snd ∘ Prod.snd)) = _
    rw [← List.map_map, List.map_snd_zip, List.map_snd_zip]
    · simp [Naming.length_deduplicate]
    · simp [Naming.length_deduplicate]

/-- The texts of distinct characters are distinct. -/
theorem nodup_map_ofList {texts : List (List Char)} (h : texts.Nodup) :
    (texts.map String.ofList).Nodup :=
  h.map fun _ _ => String.ofList_injective

/-- Texts made of identifiers are identifiers. -/
theorem isIdentifier_of_mem_map {texts : List (List Char)}
    (h : ∀ s ∈ texts, isIdentifier s = true) {t : String}
    (ht : t ∈ texts.map String.ofList) : isIdentifier t.toList = true := by
  obtain ⟨s, hs, rfl⟩ := List.mem_map.mp ht
  rw [String.toList_ofList]
  exact h s hs

/-- What holds of a text in the draft of every operation holds of the texts
in all drafts. -/
theorem forall_drafts {ops : List Operation} {drafts : List Draft}
    (hops : d.operations = .ok ops) (hdrafts : ops.mapM d.draft = .ok drafts)
    (text : Draft → List Char) {p : List Char → Prop}
    (h : ∀ op dr, String.ofList op.lowerVerb ∈ verbs → d.draft op = .ok dr →
      p (text dr)) : ∀ made ∈ drafts.map text, p made := by
  intro made hmade
  obtain ⟨dr, hdr, rfl⟩ := List.mem_map.mp hmade
  obtain ⟨op, hop, hok⟩ := Steps.exists_of_mem_mapM hdrafts hdr
  exact h op dr (verbs_of_mem_operations hops hop) hok

/-- The id and the name of an endpoint of a catalog are identifiers. -/
theorem isIdentifier_of_mem_catalog {endpoints : List Endpoint}
    {reports : List Log.Entry} (h : d.catalog = .ok (endpoints, reports))
    {e : Endpoint} (he : e ∈ endpoints) :
    isIdentifier e.id.toList = true ∧ isIdentifier e.name.toList = true := by
  obtain ⟨ops, drafts, hops, hdrafts, hids, hnames⟩ := catalog_eq_ok h
  have hid := Naming.isIdentifier_deduplicate _
    (forall_drafts hops hdrafts Draft.id fun _ _ hverb hok =>
      (isIdentifier_draft hverb hok).1)
  have hname := Naming.isIdentifier_deduplicate _
    (forall_drafts hops hdrafts Draft.name fun _ _ hverb hok =>
      (isIdentifier_draft hverb hok).2)
  exact ⟨isIdentifier_of_mem_map hid (hids ▸ List.mem_map_of_mem he),
    isIdentifier_of_mem_map hname (hnames ▸ List.mem_map_of_mem he)⟩

/-- The id of an endpoint of a catalog begins with a verb. -/
theorem verb_of_mem_catalog {endpoints : List Endpoint}
    {reports : List Log.Entry} (h : d.catalog = .ok (endpoints, reports))
    {e : Endpoint} (he : e ∈ endpoints) :
    ∃ verb ∈ verbs, verb.toList <+: e.id.toList := by
  obtain ⟨ops, drafts, hops, hdrafts, hids, -⟩ := catalog_eq_ok h
  have hdraft : ∀ id ∈ drafts.map Draft.id,
      ∃ verb ∈ verbs, verb.toList <+: id := by
    refine forall_drafts hops hdrafts Draft.id fun op dr hverb hok => ?_
    obtain ⟨hid, -⟩ := draft_eq_ok hok
    refine ⟨_, hverb, ?_⟩
    rw [String.toList_ofList]
    exact prefix_idOf hverb hid
  have hid := hids ▸ List.mem_map_of_mem he
  obtain ⟨id, hmade, hid⟩ := List.mem_map.mp hid
  rw [← hid, String.toList_ofList]
  refine Naming.forall_deduplicateFrom (fun name n hname => ?_) hdraft id hmade
  obtain ⟨verb, hverb, hprefix⟩ := hname
  exact ⟨verb, hverb, hprefix.trans (List.prefix_append _ _)⟩

/-- The name of an endpoint of a catalog is squeezed. -/
theorem isSqueezed_of_mem_catalog {endpoints : List Endpoint}
    {reports : List Log.Entry} (h : d.catalog = .ok (endpoints, reports))
    {e : Endpoint} (he : e ∈ endpoints) :
    Naming.IsSqueezed e.name.toList := by
  obtain ⟨ops, drafts, hops, hdrafts, -, hnames⟩ := catalog_eq_ok h
  have hdraft : ∀ name ∈ drafts.map Draft.name, Naming.IsSqueezed name := by
    refine forall_drafts hops hdrafts Draft.name fun op dr _ hok => ?_
    obtain ⟨hid, hname, -⟩ := draft_eq_ok hok
    exact isSqueezed_nameOf hid hname
  have hname := hnames ▸ List.mem_map_of_mem he
  obtain ⟨name, hmade, hname⟩ := List.mem_map.mp hname
  rw [← hname, String.toList_ofList]
  exact Naming.isSqueezed_deduplicate _ hdraft name hmade

/-- The ids of a catalog are pairwise distinct identifiers, and so are its
names. -/
theorem catalog_identifiers {endpoints : List Endpoint}
    {reports : List Log.Entry} (h : d.catalog = .ok (endpoints, reports)) :
    (endpoints.map (·.id)).Nodup ∧ (endpoints.map (·.name)).Nodup
      ∧ ∀ e ∈ endpoints, isIdentifier e.id.toList = true
          ∧ isIdentifier e.name.toList = true := by
  obtain ⟨_, _, -, -, hids, hnames⟩ := catalog_eq_ok h
  refine ⟨?_, ?_, fun e he => isIdentifier_of_mem_catalog h he⟩
  · rw [hids]
    exact nodup_map_ofList (Naming.nodup_deduplicate _)
  · rw [hnames]
    exact nodup_map_ofList (Naming.nodup_deduplicate _)

/-- A document whose names repeat, meet numbered ones and each other's ids,
and begin with digits. -/
def colliding : Document :=
  let named (v : Value) : Value := .ofFields [("operationId", v)]
  let paths : List (Value × Value) :=
    [(.text "paths", .ofFields
      [("/a", .ofFields
        [("get", named (.text "x")), ("post", named (.text "x"))]),
       ("/b", .ofFields
        [("GET", named (.text "x_2")), ("get", .ofFields []),
         ("Put", named (.int 2))]),
       ("/b/", .ofFields
        [("get", named (.text "get_b")), ("post", named (.text "2fa"))])])]
  ⟨.ofValue (.map paths), paths⟩

/-- The catalog of the colliding document is made, so its seven ids and names
are distinct identifiers. -/
theorem catalog_identifiers_colliding :
    ∃ endpoints reports, colliding.catalog = .ok (endpoints, reports)
      ∧ endpoints.map (·.id)
        = ["get_a", "post_a", "get_b", "get_b_2", "put_b", "get_b_",
          "post_b_"]
      ∧ (endpoints.map (·.id)).Nodup ∧ (endpoints.map (·.name)).Nodup
      ∧ ∀ e ∈ endpoints, isIdentifier e.id.toList = true
          ∧ isIdentifier e.name.toList = true := by
  have hrun : colliding.catalog.toOption.map (fun made =>
      (made.1.map (·.id), made.1.map (·.name))) = some
        (["get_a", "post_a", "get_b", "get_b_2", "put_b", "get_b_",
          "post_b_"],
         ["x", "x_3", "x_2", "get_b", "_2", "get_b_2", "_2fa"]) := by
    decide +kernel
  cases h : colliding.catalog with
  | error fault => rw [h] at hrun; cases hrun
  | ok made =>
      rw [h] at hrun
      exact ⟨made.1, made.2, rfl, by
        exact congrArg Prod.fst (Option.some.inj hrun),
        catalog_identifiers h⟩

end Toolsmith.Document
