/-
# Hallmark.Descriptor -- discovered metadata

A descriptor is a kind and properties in the order of their declaration.  It is built
from attribute values: no kind is the empty one, whatever is empty counts as no
properties, a single text is a single property, and every other collection gives the
text of each of its items.  Looked up by name, the last property of a name counts.
-/
import Hallmark.Query.Property
import Hallmark.Failure

namespace Hallmark

set_option autoImplicit false

open Document Query

structure Descriptor where
  kind : String
  properties : List Property
deriving DecidableEq, Repr

namespace Descriptor

def kindOf : Value → Except Fault String
  | .none => .ok ""
  | v => Value.display <$> v.written

def propertyOf (v : Value) : Except Fault Property :=
  (fun v => Property.ofText v.display) <$> v.written

def propertiesOf (v : Value) : Except Fault (List Property) :=
  if v.isTrue then do (← v.items).mapM propertyOf else .ok []

/-- A descriptor from a kind and from properties that are walked through. -/
def ofValues (kind properties : Value) : Except Fault Descriptor := do
  let properties ← propertiesOf properties
  return ⟨← kindOf kind, properties⟩

/-- A descriptor is built from every kind and all properties that are texts. -/
theorem ofValues_text (kind : String) (texts : List String) :
    ofValues (.text kind) (.list (texts.map .text)) = .ok ⟨kind, texts.map Property.ofText⟩ := by
  have properties : propertiesOf (.list (texts.map .text)) = .ok (texts.map Property.ofText) := by
    have walked : (texts.map Value.text).mapM propertyOf = .ok (texts.map Property.ofText) := by
      rw [List.mapM_map]
      exact List.mapM_pure
    cases texts with
    | nil => rfl
    | cons s rest => exact walked
  rw [ofValues, properties]
  rfl

/-- A lone text is one property. -/
def collected : Value → Value
  | .text s => .tuple [.text s]
  | v => v

def ofAttributes (attributes : Attributes) : Except Fault Descriptor :=
  ofValues ((attributes.get? (.text "kind")).getD .none)
    (collected ((attributes.get? (.text "properties")).getD .none))

/-- The properties by name, each name at the place of its first and with the value of
its last property. -/
def byName (d : Descriptor) : Dictionary String (Option String) :=
  Dictionary.ofEntries (d.properties.map fun p => (p.name, p.value))

end Descriptor

end Hallmark
