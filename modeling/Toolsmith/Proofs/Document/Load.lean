/-
What reading a text as a document comes to. It comes to a mapping, or the text
is refused as one that is no document, or it asks too much of the reader; and
what asks too much stands in the text.

A document that is read has no loop that claims to be a mapping and is none:
YAML makes settled webs, and JSON has no loops.
-/
import Toolsmith.Document.Basic
import Toolsmith.Proofs.Json.Decoded
import Toolsmith.Proofs.Json.Limits
import Toolsmith.Proofs.Value.Web
import Toolsmith.Proofs.Yaml.Fault

namespace Toolsmith

/-- The web of a YAML text is settled. -/
theorem Yaml.settled_of_readWeb {s : List Char} {w : Web}
    (h : readWeb s = .ok w) : ∃ unsettled : Web, w = unsettled.settled := by
  unfold readWeb at h
  split at h
  · obtain ⟨found, -, h⟩ := Steps.bind_eq_ok.mp h
    cases found with
    | none =>
        cases h
        exact ⟨.ofValue .null, rfl⟩
    | some node =>
        unfold web at h
        dsimp only at h
        split at h
        · cases h
        · split at h
          · cases h
            exact ⟨_, rfl⟩
          · cases h
            exact ⟨_, rfl⟩
  · cases h

namespace Document

variable {text : String} {filename : Option String} {d : Document}

theorem readYaml_eq_ok {s : List Char} {w : Web} (h : readYaml s = .ok w) :
    Yaml.readWeb s = .ok w := by
  unfold readYaml at h
  split at h
  next heq =>
    cases h
    exact heq
  next => split at h <;> cases h

/-- A web comes out of one of the two readers. -/
theorem read_eq_ok {format : Format} {s : List Char} {w : Web}
    (h : format.read s = .ok w) :
    (∃ v, Json.read s = .ok v ∧ w = .ofValue v) ∨ Yaml.readWeb s = .ok w := by
  cases format with
  | json =>
      change readJson s = .ok w at h
      unfold readJson at h
      split at h
      next v hv =>
        cases h
        exact Or.inl ⟨v, hv, rfl⟩
      all_goals cases h
  | yaml => exact Or.inr (readYaml_eq_ok h)
  | unknown =>
      change readEither s = .ok w at h
      unfold readEither at h
      split at h
      next v hv =>
        cases h
        exact Or.inl ⟨v, hv, rfl⟩
      next => exact Or.inr (readYaml_eq_ok h)
      next => cases h

/-- The root of a document's web is a mapping. -/
theorem load_eq_ok (h : load text filename = .ok d) :
    (Format.ofName ((filename.getD "").toList)).read text.toList = .ok d.web
      ∧ d.web.look d.web.root = .map d.entries := by
  unfold load at h
  obtain ⟨w, hw, h⟩ := Steps.bind_eq_ok.mp h
  split at h
  next entries hroot =>
    cases h
    exact ⟨hw, hroot⟩
  next => cases h

/-- A field of a document that passes for a mapping is found to be one. -/
theorem exists_look_of_load (h : load text filename = .ok d) {name : String}
    (hmap : (d.field name).isMap = true) :
    ∃ entries, d.look (d.field name) = .map entries := by
  obtain ⟨hread, hroot⟩ := load_eq_ok h
  unfold field at hmap ⊢
  cases hentry : Value.entry? name d.entries with
  | none =>
      rw [hentry] at hmap
      cases hmap
  | some v =>
  rw [hentry, Option.getD_some] at hmap
  rw [Option.getD_some]
  rcases read_eq_ok hread with ⟨root, hjson, hweb⟩ | hyaml
  · have hform : Json.HasForm v := by
      refine Json.hasForm_of_entry? ?_ hentry
      rw [← hroot, hweb]
      have hform := Json.hasForm_of_read hjson
      cases hform with
      | map hkeys hforms => exact .map hkeys hforms
      | _ => rw [hweb] at hroot; cases hroot
    cases hform with
    | map => exact ⟨_, rfl⟩
    | _ => cases hmap
  · obtain ⟨unsettled, hweb⟩ := Yaml.settled_of_readWeb hyaml
    unfold Value.entry? Value.find? at hentry
    obtain ⟨e, he, rfl⟩ := Option.map_eq_some_iff.mp hentry
    rw [hweb] at hroot
    obtain ⟨u, hu⟩ := Web.exists_graft_of_mem_root hroot
      (List.mem_of_find?_eq_some he)
    rw [hu] at hmap ⊢
    unfold look
    rw [hweb]
    exact Web.exists_look_of_isMap hmap

-- ============================================================== excess

/-- A text asks too much of the reader of a format, and how: it has an integer
of more digits than are read, more openings than are followed, an escape for
what is no code point, or a scalar that breaks the promise of its tag. -/
inductive Overtaxes (format : Format) (s : List Char) : Misuse → Prop where
  | digits {run : List Char} (hformat : format ≠ .yaml) (hrun : run <:+: s)
      (hdigits : ∀ c ∈ run, Text.isAsciiDigit c = true)
      (hlimit : Number.digitLimit < run.length) :
      Overtaxes format s (.digits run.length)
  | nested {isMapping : Bool} (hformat : format ≠ .yaml)
      (hlimit : Json.depthLimit < s.countP Json.isOpening) :
      Overtaxes format s (.depth isMapping)
  | deep (hformat : format ≠ .json)
      (hlimit : Yaml.depthLimit ≤ (Yaml.tokens s).1.countP Yaml.Token.opens) :
      Overtaxes format s (.depth false)
  | escape {n : Nat} {cause : Yaml.ScalarFault} {how : Misuse}
      (hformat : format ≠ .json) (hheld : Yaml.HoldsEscape s n)
      (hfault : Yaml.escapedChar n = .error (.scalar cause))
      (hhow : Failure.ofYaml (.scalar cause) = .misuse how) :
      Overtaxes format s how
  | scalar {n : Yaml.Node} {cause : Yaml.ScalarFault} {how : Misuse}
      (hformat : format ≠ .json)
      (hnode : Yaml.Node.ofTokens (Yaml.tokens s).1 (Yaml.tokens s).2
        = .ok (some n))
      (hbreaks : n.Breaks cause)
      (hhow : Failure.ofYaml (.scalar cause) = .misuse how) :
      Overtaxes format s how

/-- What a reader of a format answers without a web. -/
inductive Rejects (format : Format) (s : List Char) : Failure → Prop where
  | unreadable (reason : String) :
      Rejects format s (.specification (.unreadable reason))
  | overtaxed {how : Misuse} (h : Overtaxes format s how) :
      Rejects format s (.misuse how)

variable {format : Format} {s : List Char} {failure : Failure}

theorem rejects_readYaml (hformat : format ≠ .json)
    (h : readYaml s = .error failure) : Rejects format s failure := by
  unfold readYaml at h
  split at h
  next => cases h
  next fault hfault =>
  cases Yaml.shows_of_readWeb hfault with
  | tooDeep hlimit =>
      cases h
      exact .overtaxed (.deep hformat hlimit)
  | @escape n cause hheld hescaped =>
      cases cause <;>
        (cases h; exact .overtaxed (.escape hformat hheld hescaped rfl))
  | @node n cause hnode hbreaks =>
      cases cause <;>
        (cases h; exact .overtaxed (.scalar hformat hnode hbreaks rfl))
  | _ =>
      cases h
      exact .unreadable _

/-- A text that is too much for JSON. -/
theorem rejects_ofJson (hformat : format ≠ .yaml) {fault : Json.Fault}
    (hfault : Json.read s = .error fault)
    (hgrammar : ∀ cause offset, fault ≠ .malformed cause offset) :
    Rejects format s (.ofJson fault) := by
  have hbears := Json.bears_of_read_eq_error hfault
  cases fault with
  | malformed cause offset => exact absurd rfl (hgrammar cause offset)
  | integerTooLong digits =>
      obtain ⟨hlimit, run, hrun, rfl, hdigits⟩ := hbears
      exact .overtaxed (.digits hformat hrun hdigits hlimit)
  | tooDeep isMapping => exact .overtaxed (.nested hformat hbears)

theorem rejects_read (h : format.read s = .error failure) :
    Rejects format s failure := by
  cases format with
  | json =>
      change readJson s = .error failure at h
      unfold readJson at h
      split at h
      next => cases h
      next =>
        cases h
        exact .unreadable _
      next fault hgrammar hfault =>
        cases h
        exact rejects_ofJson (by decide) hfault hgrammar
  | yaml => exact rejects_readYaml (by decide) h
  | unknown =>
      change readEither s = .error failure at h
      unfold readEither at h
      split at h
      next => cases h
      next => exact rejects_readYaml (by decide) h
      next fault hgrammar hfault =>
        cases h
        exact rejects_ofJson (by decide) hfault hgrammar

/-- The computation ends in a misuse. -/
def endsInMisuse {α : Type} : Except Failure α → Bool
  | .error (.misuse _) => true
  | _ => false

end Document

end Toolsmith
