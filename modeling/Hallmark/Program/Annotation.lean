/-
# Hallmark.Program.Annotation -- annotations and how they are made

An annotation is an instance of a class with values for the fields of the class.  The
`Form` of a class says which fields those are, what they hold by default, and how the
values are completed: the kinds that a target restriction admits and the properties of
metadata become tuples, a lone text being the only item of its tuple, and a restriction
admits known kinds only.
-/
import Hallmark.Program.Class
import Hallmark.Failure

namespace Hallmark.Program

set_option autoImplicit false

open Document

structure Annotation where
  type : Class
  attributes : Attributes

inductive Completion where
  | kinds
  | properties
  /-- A field has the name of the completion, so that it cannot be called. -/
  | hidden
deriving DecidableEq, Repr

structure Form where
  type : Class
  /-- Whether the class declares fields of its own, be it none. -/
  isRecord : Bool
  /-- The fields with their defaults, unless nothing in the line of the class is a record. -/
  fields : Option Attributes
  completion : Option Completion

/-- Kinds that no target has. -/
structure UnknownKinds where
  names : List String
deriving Repr

def UnknownKinds.message (e : UnknownKinds) : String :=
  "Unknown target kinds: " ++ commaSeparated e.names

/-- A lone text, or the items of a collection, as a tuple. -/
def tupleOf : Value → Except Fault Value
  | .text s => .ok (.tuple [.text s])
  | v => .tuple <$> v.items

def isKindName (v : Value) : Bool := Kind.all.any fun k => v == .text k.name

namespace Completion

/-- The name under which a class offers its completion. -/
def hook : String := "__post_init__"

/-- The field that is completed. -/
def field : Completion → String
  | .kinds => "kinds"
  | .properties => "properties"
  | .hidden => hook

def check : Completion → List Value → Except (Failure UnknownKinds) Unit
  | .kinds, items => do
    let unknown := items.filter (!isKindName ·)
    if !unknown.isEmpty then throw (.refused ⟨← (allText unknown).mapError .fault⟩)
  | _, _ => .ok ()

def apply (c : Completion) (attributes : Attributes) :
    Except (Failure UnknownKinds) Attributes := do
  match attributes.get? (.text c.field) with
  | none => return attributes
  | some v =>
    if c = .hidden then throw (.fault (.notCallable v.sortName))
    let whole ← (tupleOf v).mapError .fault
    c.check ((whole.items?).getD [])
    return attributes.put (.text c.field) whole

end Completion

namespace Form

def hasField (f : Form) (name : String) : Bool :=
  ((f.fields.getD []).get? (.text name)).isSome

/-- A new annotation, with values for some of its fields. -/
def make (f : Form) (given : Dictionary Value Value) :
    Except (Failure UnknownKinds) Annotation := do
  for key in given.keys do
    if key.text?.isNone then throw (.fault (.notName key))
  let fields := f.fields.getD []
  for key in given.keys do
    if (fields.get? key).isNone || f.type.isWhole then
      throw (.fault (.unknownArgument f.type.path key.display))
  let attributes := fields.merge given
  match f.completion with
  | none => return ⟨f.type, attributes⟩
  | some c => return ⟨f.type, ← c.apply attributes⟩

end Form

/-- The annotation as it is written: as the call of its class, if that is a record. -/
def Annotation.shown (a : Annotation) : String :=
  match a.type.appearance with
  | .call => call a.type.path (a.attributes.map fun e => e.1.display ++ "=" ++ e.2.literal)
  | .zero => "0"

end Hallmark.Program
