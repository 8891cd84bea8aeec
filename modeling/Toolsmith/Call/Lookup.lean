/-
Finding endpoints in a catalog: one by the name that somebody gave for it,
or several by the words of an intent.
-/
import Toolsmith.Api.Endpoint
import Toolsmith.Text.Case
import Toolsmith.Text.Search

namespace Toolsmith.Catalog

open Text

/-- The text occurs in another one when case does not count. -/
def occursIn (part whole : String) : Bool :=
  contains (lower part.toList) (lower whole.toList)

/-- The endpoint that a name means: the first one of exactly that name, or
else the first one whose name or description holds it. -/
def findByName (endpoints : List Endpoint) (name : String) :
    Option Endpoint :=
  if name == "" then none
  else
    (endpoints.find? fun e => e.name == name).or
      (endpoints.find? fun e =>
        occursIn name e.name || occursIn name e.description)

/-- The words of an intent, in lower case. -/
def terms (intent : String) : List (List Char) :=
  words (lower intent.toList)

/-- What an endpoint says about itself. -/
def summary (e : Endpoint) : List Char :=
  lower (e.name.toList ++ ' ' :: e.description.toList
    ++ ' ' :: e.path.toList)

/-- The endpoint has one of the words. -/
def mentions (terms : List (List Char)) (e : Endpoint) : Bool :=
  terms.any fun term => contains term (summary e)

/-- The first `limit` of a list; a negative limit leaves out so many at the
end. -/
def firstOf {α : Type} (limit : Int) (xs : List α) : List α :=
  if limit < 0 then xs.take (xs.length - limit.natAbs)
  else xs.take limit.toNat

/-- How many endpoints an intent finds unless told otherwise. -/
def defaultLimit : Int := 3

/-- The endpoints that mention a word of the intent, in the order of the
catalog and not more than `limit`. -/
def findByIntent (endpoints : List Endpoint) (intent : String)
    (limit : Int) : List Endpoint :=
  firstOf limit (endpoints.filter (mentions (terms intent)))

end Toolsmith.Catalog
