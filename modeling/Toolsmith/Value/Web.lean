/-
Values whose collections may hold themselves. A web keeps such collections
apart, by their numbers, and a `loop` stands for one of them wherever it is
held. `Web.whole` is a value without the web: every collection is spelled
out, except where it stands inside itself.
-/
import Toolsmith.Value.Basic

namespace Toolsmith

namespace Value

mutual

/-- The value with something else for every loop in it. -/
def graft (other : Nat → Bool → Value) : Value → Value
  | null => null
  | bool b => bool b
  | int n => int n
  | float x => float x
  | text s => text s
  | bytes octets => bytes octets
  | date d => date d
  | moment t => moment t
  | pair a b => pair (graft other a) (graft other b)
  | list items => list (grafts other items)
  | map entries => map (entryGrafts other entries)
  | set items => set (grafts other items)
  | loop number mapping => other number mapping

/-- `graft` for every value of a list. -/
def grafts (other : Nat → Bool → Value) : List Value → List Value
  | [] => []
  | v :: rest => graft other v :: grafts other rest

/-- `graft` for the keys and values of entries. -/
def entryGrafts (other : Nat → Bool → Value) :
    List (Value × Value) → List (Value × Value)
  | [] => []
  | (k, v) :: rest =>
    (graft other k, graft other v) :: entryGrafts other rest

end

/-- Grafting into a collection leaves a collection. -/
theorem isCollection_graft {other : Nat → Bool → Value} {v : Value}
    (h : v.isCollection = true) : (v.graft other).isCollection = true := by
  cases v with
  | list items => rfl
  | map entries => rfl
  | set items => rfl
  | _ => cases h

end Value

/-- A collection that holds itself. -/
structure Knot where
  value : Value
  isCollection : value.isCollection = true
  deriving Repr

/-- The collection with something else for every loop in it. -/
def Knot.graft (other : Nat → Bool → Value) (k : Knot) : Knot :=
  ⟨k.value.graft other, Value.isCollection_graft k.isCollection⟩

/-- A value as a knot, if it is a collection. -/
def Knot.of? (v : Value) : Option Knot :=
  if h : v.isCollection = true then some ⟨v, h⟩ else none

/-- A value with the collections that loops in it stand for. -/
structure Web where
  knots : List (Nat × Knot)
  root : Value
  deriving Repr, Inhabited

namespace Web

/-- A value without loops. -/
def ofValue (v : Value) : Web := ⟨[], v⟩

/-- The collection that a loop stands for; another value is itself. -/
def look (w : Web) (v : Value) : Value :=
  match v with
  | .loop number _ => ((w.knots.lookup number).map (·.value)).getD v
  | v => v

/-- A loop that says whether the collection it stands for is a mapping. -/
def settledLoop (w : Web) (number : Nat) (_ : Bool) : Value :=
  .loop number (((w.knots.lookup number).map (·.value.isMap)).getD false)

/-- The web with every loop saying what it stands for. -/
def settled (w : Web) : Web :=
  ⟨w.knots.map fun (number, knot) => (number, knot.graft w.settledLoop),
    w.root.graft w.settledLoop⟩

/-- The value with its loops spelled out, except those that stand for one of
the `opened` collections around them. The first argument bounds the depth of
these. -/
def unfold (w : Web) : Nat → List Nat → Value → Value
  | 0, _, v => v
  | fuel + 1, opened, v =>
    v.graft fun number mapping =>
      if opened.contains number then .loop number mapping
      else
        match w.knots.lookup number with
        | some knot => unfold w fuel (number :: opened) knot.value
        | none => .loop number mapping

/-- A value of the web as it is without the web. -/
def whole (w : Web) (v : Value) : Value :=
  if w.knots.isEmpty then v else w.unfold (w.knots.length + 1) [] v

/-- The value of the web as it is without the web. -/
def value (w : Web) : Value := w.whole w.root

end Web

end Toolsmith
