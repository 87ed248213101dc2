/-
# Hallmark.Graph.Basic -- declared annotation graphs

A graph declares entities and annotation types by name, each with a list of annotations,
and for types the default values of attributes.  An annotation is the name of a type
with the attributes that are given; a type that is not declared has no annotations and
no defaults.  The metadata type has defaults for its kind and its properties in every
graph.

A graph is a model whose annotations are those with a type that the graph mentions.
-/
import Hallmark.Model

namespace Hallmark.Graph

set_option autoImplicit false

open Document

structure Annotation where
  type : String
  attributes : Attributes

/-- An annotation whose attributes are a mapping. -/
def Annotation.ofValue (type : String) (v : Value) : Except Fault Annotation :=
  match v.entries? with
  | some attributes => .ok ⟨type, attributes⟩
  | none => .error (.notMapping v)

/-- What annotations can be asked for: a named entity, a named type, or anything else. -/
inductive Target where
  | entity (name : Value)
  | type (name : Value)
  | other (v : Value)

namespace Target

/-- The value that a target is written with. -/
def value : Target → Value
  | .entity name => name
  | .type name => name
  | .other v => v

def text : Target → String
  | .entity name => call "EntityNode" ["name=" ++ name.literal]
  | .type name => call "TypeNode" ["name=" ++ name.literal]
  | .other v => v.literal

def shown (t : Target) : Except Fault String := (fun _ => t.text) <$> t.value.written

theorem returns_shown_iff (t : Target) : Returns t.shown ↔ t.value.isWritable = true :=
  exists_map_iff.trans (Value.exists_written_iff _)

/-- Only what can be a key can be looked up. -/
def check : Target → Except Fault Unit
  | .entity name => if name.isKey then .ok () else .error (.notKey name)
  | .type name => if name.isKey then .ok () else .error (.notKey name)
  | .other _ => .ok ()

end Target

end Hallmark.Graph

namespace Hallmark

set_option autoImplicit false

open Document

structure Graph where
  entities : Dictionary Value (List Graph.Annotation)
  types : Dictionary Value (List Graph.Annotation)
  defaults : Dictionary Value Attributes

namespace Graph

/-- The values that the metadata type has where none are declared. -/
def metadataDefaults : Attributes := [(.text "kind", .text ""), (.text "properties", .tuple [])]

/-- A graph with the defaults of its metadata type completed. -/
def complete (entities types : Dictionary Value (List Annotation))
    (defaults : Dictionary Value Attributes) (metadataType : Value) : Except Fault Graph :=
  if metadataType.isKey then
    let declared := (defaults.get? metadataType).getD []
    .ok ⟨entities, types, defaults.put metadataType (metadataDefaults.merge declared)⟩
  else .error (.notKey metadataType)

variable (g : Graph)

def entityNames : List Value := g.entities.keys

def annotations : Target → List Annotation
  | .entity name => (g.entities.get? name).getD []
  | .type name => (g.types.get? name).getD []
  | .other _ => []

/-- The attributes of an annotation: the defaults of its type, overridden and followed
by those that are given. -/
def resolve (a : Annotation) : Attributes :=
  (((g.defaults.get? (.text a.type)).getD []).merge a.attributes).map fun e => (e.1, e.2.settled)

/-- The types of the annotations that the graph lists, in order of appearance. -/
def mentioned : List String :=
  ((g.entities ++ g.types).flatMap (·.2)).map (·.type)

theorem mem_of_get? {d : Dictionary Value (List Annotation)} {key : Value} {a : Annotation}
    (member : a ∈ (d.get? key).getD []) : ∃ e ∈ d, a ∈ e.2 := by
  unfold Dictionary.get? at member
  cases found : d.find? (·.1 == key) with
  | none => simp [found] at member
  | some e =>
    rw [found] at member
    exact ⟨e, List.mem_of_find?_eq_some found, member⟩

theorem type_mem_mentioned {t : Target} {a : Annotation} (member : a ∈ g.annotations t) :
    a.type ∈ g.mentioned := by
  have listed : ∃ e ∈ g.entities ++ g.types, a ∈ e.2 := by
    cases t with
    | entity name =>
      obtain ⟨e, here, holds⟩ := mem_of_get? member
      exact ⟨e, List.mem_append_left _ here, holds⟩
    | type name =>
      obtain ⟨e, here, holds⟩ := mem_of_get? member
      exact ⟨e, List.mem_append_right _ here, holds⟩
    | other v => cases member
  obtain ⟨e, here, holds⟩ := listed
  exact List.mem_map_of_mem (List.mem_flatMap_of_mem here holds)

/-- An annotation of a type that the graph mentions. -/
abbrev Listed := { a : Annotation // a.type ∈ g.mentioned }

def listed (t : Target) : List g.Listed :=
  (g.annotations t).attach.map fun a => ⟨a.1, g.type_mem_mentioned a.2⟩

@[simp] theorem map_val_listed (t : Target) : (g.listed t).map (·.1) = g.annotations t := by
  simp [listed]

def model : Model Target g.Listed String where
  lookUp := Target.check
  annotations := g.listed
  typeOf a := a.1.type
  declaration name := .type (.text name)
  name := id
  attributes a := .ok (g.resolve a.1)
  shown := Target.shown
  types := g.mentioned
  typeOf_mem a := a.2

end Graph

end Hallmark
