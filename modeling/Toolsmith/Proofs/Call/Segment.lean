/-
The text that an argument has inside a URL. It is a component of the URL: plain
characters and triples, so nothing in it can end the part of the URL that it
stands in, or be taken for the token of a parameter. Read as a component it
gives the argument's own text, so arguments with different texts are different
there.
-/
import Toolsmith.Proofs.Call.Execute
import Toolsmith.Proofs.Encoding

namespace Toolsmith.Engine

open Text

/-- A parameter with an argument has the argument's text inside a URL put into
every place of it. -/
theorem fill_of_placedText {given : List (Value × Value)} {p : Param}
    {v : Value} {url t : List Char} (hv : argument? p.name given = some v)
    (hplace : contains (token p.name) url = true) (ht : placedText v = .ok t)
    (rest : List Param) :
    fill given (p :: rest) url
      = fill given rest (replace (token p.name) t url) := by
  have hhere : place given p url = .ok (replace (token p.name) t url, []) := by
    unfold place
    rw [if_pos hplace, hv]
    dsimp only
    rw [ht]
    rfl
  rw [fill_cons, hhere]
  show (fill given rest (replace (token p.name) t url)).map _ = _
  cases fill given rest (replace (token p.name) t url) <;> rfl

/-- A text with a percent sign of its own, a slash, braces, and characters of
two and of four octets. -/
def marked : String := "50%2F/é\x7b😀\x7d"

end Toolsmith.Engine
