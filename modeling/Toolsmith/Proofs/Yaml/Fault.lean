/-
Why a YAML text has no value, and what in the text shows it. A fault that is
more than a mistake in the text has a cause that can be pointed at: too many
openings, an escape for what is no code point, or a node that breaks the
promise of its tag.
-/
import Toolsmith.Proofs.Yaml.Depth
import Toolsmith.Proofs.Yaml.Escape
import Toolsmith.Proofs.Yaml.Promise

namespace Toolsmith.Yaml

/-- What there is in a text to show for a fault of it. A mistake needs nothing
more. -/
inductive Shows (s : List Char) : Fault → Prop where
  | character : Shows s .character
  | token : Shows s .token
  | grammar : Shows s .grammar
  | reference : Shows s .reference
  | meaning : Shows s .meaning
  | tooDeep (h : depthLimit ≤ (tokens s).1.countP Token.opens) :
      Shows s .tooDeep
  | escape {n : Nat} {cause : ScalarFault} (hheld : HoldsEscape s n)
      (hfault : escapedChar n = .error (.scalar cause)) :
      Shows s (.scalar cause)
  | node {n : Node} {cause : ScalarFault}
      (hnode : Node.ofTokens (tokens s).1 (tokens s).2 = .ok (some n))
      (hbreaks : n.Breaks cause) : Shows s (.scalar cause)

/-- What the scanner stops at shows. -/
theorem Bears.shows {s : List Char} {fault : Fault} (h : Bears s fault) :
    Shows s fault := by
  cases h with
  | token => exact .token
  | @escape n fault hheld hfault =>
      unfold escapedChar at hfault
      split at hfault
      next hhuge =>
        cases hfault
        exact .escape hheld (if_pos hhuge)
      next hhuge =>
        split at hfault
        next hbeyond =>
          cases hfault
          exact .escape hheld ((if_neg hhuge).trans (if_pos hbeyond))
        next => cases hfault

/-- Whatever a text has no value for shows in it. -/
theorem shows_of_readWeb {s : List Char} {fault : Fault}
    (h : readWeb s = .error fault) : Shows s fault := by
  unfold readWeb at h
  split at h
  · dsimp only at h
    rcases Steps.bind_eq_error.mp h with h | ⟨found, hfound, h⟩
    · cases Node.complaint_of_ofTokens h with
      | grammar => exact .grammar
      | reference => exact .reference
      | behind =>
          cases hbehind : (tokens s).2 with
          | none => exact .grammar
          | some fault => exact (bears_of_tokens hbehind).shows
      | tooDeep hdeep => exact .tooDeep hdeep
    · cases found with
      | none => cases h
      | some node =>
          cases lacks_of_web h with
          | meaning => exact .meaning
          | scalar hbreaks => exact .node hfound hbreaks
  · cases h
    exact .character

end Toolsmith.Yaml
