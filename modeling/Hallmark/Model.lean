/-
# Hallmark.Model -- what a search looks at

A model lists the annotations of entities.  Each annotation has a type, each type has a
name, and the declaration of a type is an entity with annotations of its own, which is
what makes a search recursive.  A model is finite where it matters: `types` holds the
type of every annotation, and so bounds how many types a search can enter.
-/
import Hallmark.Event

namespace Hallmark

set_option autoImplicit false

open Document

structure Model (E A T : Type) where
  /-- Whether an entity can be looked up; one that cannot has no annotations. -/
  lookUp : E → Except Fault Unit
  annotations : E → List A
  typeOf : A → T
  declaration : T → E
  name : T → String
  /-- The attributes of an annotation, if it has any to read. -/
  attributes : A → Except Fault Attributes
  /-- How an entity appears in events, if it can be written. -/
  shown : E → Except Fault String
  types : List T
  typeOf_mem : ∀ a, typeOf a ∈ types

namespace Model

variable {E A T : Type} (M : Model E A T)

/-- The annotations on the declaration of a type. -/
def annotationsOn (t : T) : List A := M.annotations (M.declaration t)

end Model

end Hallmark
