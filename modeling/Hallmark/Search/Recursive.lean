/-
# Hallmark.Search.Recursive -- the same search as a plain recursion

`explore` looks at a list of annotations in order.  It stops at the first of the
metadata type, passes over reserved types and types that have been entered, and
otherwise looks through the declaration of the type before it goes on with the list.
The types entered and whether the depth limit has been reported pass from each
annotation to the next; `room` is how many more types may lie on the path.
-/
import Hallmark.Search

namespace Hallmark.Search

set_option autoImplicit false

variable {E A T : Type} [DecidableEq T]

def explore (M : Model E A T) (c : Settings) (room : Nat) (entered : List T) (warned : Bool) :
    List A → Exploration A T
  | [] => ⟨[], entered, warned, none⟩
  | a :: rest =>
    let type := M.typeOf a
    let name := M.name type
    let after (x : Exploration A T) : Exploration A T :=
      if x.answer.isSome then x
      else
        let y := explore M c room x.entered x.warned rest
        { y with events := x.events ++ y.events }
    match c.role name with
    | .error f => ⟨[], entered, warned, some (.error f)⟩
    | .ok .metadata => ⟨[.found name (c.depth.levels - room)], entered, warned, some (.ok a)⟩
    | .ok .reserved => after ⟨[], entered, warned, none⟩
    | .ok .ordinary =>
      if type ∈ entered then after ⟨[.revisited name], entered, warned, none⟩
      else
        match room with
        | 0 =>
          after ⟨if warned then [] else [.abandoned c.depth.written name], entered, true, none⟩
        | room + 1 => after (explore M c room (type :: entered) warned (M.annotationsOn type))
termination_by annotations => (room, annotations.length)

/-- The recursive search for the nearest metadata annotation of an entity. -/
def findRecursively (M : Model E A T) (c : Settings) (e : E) : Traced Fault (Option A) :=
  (explore M c c.depth.levels [] false (M.annotations e)).result

end Hallmark.Search
