/-
# Hallmark.Graph.Lookup -- entities by name

A name is looked up among the entities and then among the types.  A name that is in
neither is answered with at most three names that resemble it, the closest first and,
of equally close ones, the last in order first; a name that is both an entity and a type
can be suggested twice.
-/
import Hallmark.Graph.Basic
import Hallmark.Text.Resemblance

namespace Hallmark.Graph

set_option autoImplicit false

open Document

/-- A name that is not in a graph, and names in it that resemble it. -/
structure UnknownEntity where
  name : Value
  suggestions : List String

def UnknownEntity.message (e : UnknownEntity) : String :=
  "Entity not found: " ++ e.name.display ++
    if e.suggestions.isEmpty then ""
    else " (did you mean: " ++ commaSeparated e.suggestions ++ "?)"

/-- The items of a candidate; numbers, dates and nothing have no size. -/
def sized (v : Value) : Except Fault (List Value) :=
  match v.items? with
  | some items => .ok items
  | none => .error (.unsized v)

/-- Whether the first candidate comes before the second in a list of suggestions. -/
def precedes (x y : Text.Likeness × Value) : Bool :=
  if y.1.less x.1 then true
  else if x.1.less y.1 then false
  else !Text.precedes x.2.display y.2.display

/-- The names that resemble `name`, best first. -/
def suggestions (name : Value) (candidates : List Value) : Except Fault (List String) := do
  let wanted ← name.items
  let rated ← candidates.mapM fun c => do return (Text.Likeness.of (← sized c) wanted, c)
  let close := (rated.filter (·.1.isClose)).mergeSort precedes
  allText ((close.take 3).map (·.2))

variable (g : Graph)

def find (name : Value) : Except (Failure UnknownEntity) Target :=
  if !name.isKey then .error (.fault (.notKey name))
  else if (g.entities.get? name).isSome then .ok (.entity name)
  else if (g.types.get? name).isSome then .ok (.type name)
  else
    match suggestions name (g.entities.keys ++ g.types.keys) with
    | .ok names => .error (.refused ⟨name, names⟩)
    | .error f => .error (.fault f)

end Hallmark.Graph
