/-
# Hallmark.Matching -- entities and queries

An entity matches a query when the descriptor that a search finds for it satisfies the
query: its kind is accepted, and every condition names one of its properties, with the
value asked for if one is.  Conditions are judged in order, up to the first that fails.
The query `matchAll` matches without a search.

Where nothing is found the report names the entity, and the report is made whether or not
anyone reads it: an entity that cannot be written makes the query fail.
-/
import Hallmark.Search
import Hallmark.Query.Expression

namespace Hallmark

set_option autoImplicit false

open Document Query

namespace Descriptor

/-- Why a condition fails, if it does. -/
def objection? (d : Descriptor) (condition : Property) : Option Event :=
  if !condition.isSatisfiable then some (.malformed condition)
  else
    match d.byName.get? condition.name with
    | none => some (.missing condition.name d.kind)
    | some actual =>
      match condition.value with
      | none => none
      | some wanted =>
        if actual = some wanted then none else some (.different condition.name actual wanted)

/-- The first reason why a descriptor does not satisfy a query. -/
def refusal? (d : Descriptor) (x : Expression) : Option Event :=
  if x.acceptsKind d.kind then x.conditions.findSome? d.objection?
  else some (.kindRejected d.kind x.kind)

def satisfies (d : Descriptor) (x : Expression) : Bool := (d.refusal? x).isNone

/-- A descriptor satisfies a query if it is of its kind and no condition fails. -/
theorem satisfies_iff (d : Descriptor) (x : Expression) :
    d.satisfies x = true ↔
      x.acceptsKind d.kind = true ∧ ∀ p ∈ x.conditions, d.objection? p = none := by
  rw [satisfies, Option.isNone_iff_eq_none, refusal?]
  split
  · rename_i accepted
    rw [List.findSome?_eq_none_iff, and_iff_right accepted]
  · rename_i rejected
    constructor
    · exact nofun
    · exact fun both => absurd both.1 rejected

/-- `satisfies` with the reason reported. -/
def judge {ε : Type} (d : Descriptor) (x : Expression) : Traced ε Bool :=
  ⟨(d.refusal? x).toList, .ok (d.satisfies x)⟩

end Descriptor

namespace Model

variable {E A T : Type} [DecidableEq T] (M : Model E A T) (c : Settings)

/-- The descriptor of the nearest metadata annotation. -/
def describe (e : E) : Traced Fault (Option Descriptor) := do
  Traced.ofExcept (M.lookUp e)
  match ← Search.find M c e with
  | none => return none
  | some a => return some (← Traced.ofExcept (M.attributes a >>= Descriptor.ofAttributes))

/-- The report that nothing was found for an entity. -/
def disclaim (e : E) (criterion : Value) : Traced Fault Bool := do
  let entity ← Traced.ofExcept (M.shown e)
  let criterion ← Traced.ofExcept criterion.written
  Traced.report (.noMetadata entity criterion.display)
  return false

/-- Whether an entity matches a query. -/
def accepts (e : E) (query : String) : Traced Fault Bool := do
  if query = matchAll then return true
  match ← M.describe c e with
  | none => M.disclaim e (.text query)
  | some d => d.judge (Expression.ofText query)

/-- `accepts` for a criterion of any value; only text is a query. -/
def meets (e : E) (criterion : Value) : Traced Fault Bool :=
  match criterion with
  | .text query => M.accepts c e query
  | v => do
    match ← M.describe c e with
    | none => M.disclaim e v
    | some _ => Traced.ofExcept (.error (.noMember v.sortName "find"))

/-- Those entities that meet a criterion, in order. -/
def keep (criterion : Value) : List E → Traced Fault (List E)
  | [] => pure []
  | e :: rest => do
    let chosen ← M.meets c e criterion
    let others ← keep criterion rest
    return if chosen then e :: others else others

def select (entities : List E) (criterion : Value) : Traced Fault (List E) := do
  let chosen ← M.keep c criterion entities
  let criterion ← Traced.ofExcept criterion.written
  Traced.report (.selected chosen.length criterion.display)
  return chosen

end Model

end Hallmark
