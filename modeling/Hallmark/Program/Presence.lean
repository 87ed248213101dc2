/-
# Hallmark.Program.Presence -- the annotations that are present

Present on a class are the annotations attached to it, then those attached to its
ancestors, the nearest first, whose type is inherited, the first of each type that is
not on the class itself.  Among the classes of the library those of errors have ancestors.
Present on anything else is what is attached to it.

A program is a model whose annotations are those with a type of which some annotation
is attached.
-/
import Hallmark.Program.Attach
import Hallmark.Model

namespace Hallmark.Program

set_option autoImplicit false

variable (p : Program)

/-- Whether annotations of a class also hold for the subclasses of what carries them. -/
def isInherited (c : Class) : Bool :=
  (p.declaredOn (.type c)).any fun a => a.type.isA .inherited

/-- The inherited annotations in a list, one of each type that has not been seen. -/
def inheritFrom (seen : List Class) : List Annotation → List Annotation
  | [] => []
  | a :: rest =>
    if a.type ∈ seen || !p.isInherited a.type then inheritFrom seen rest
    else a :: inheritFrom (a.type :: seen) rest

/-- The module of the classes of errors. -/
def errorHome : String := "metamatch.core.exceptions"

/-- The classes of errors above one of them, nearest first. -/
def errorsAbove : String → List String
  | "AnnotationTargetError" => ["MetaMatchError"]
  | "ConfigError" => ["MetaMatchError"]
  | "ModelError" => ["MetaMatchError"]
  | "TargetImportError" => ["MetaMatchError"]
  | "ModelLoadError" => ["ModelError", "MetaMatchError"]
  | "UnknownEntityError" => ["ModelError", "MetaMatchError"]
  | _ => []

/-- The keys of the classes above a subject that is a class, nearest first. -/
def Subject.above : Subject → List Key
  | .type c => c.ancestors
  | .library home name true =>
    if home = errorHome then (errorsAbove name).map fun name => ⟨.library home name, .type⟩ else []
  | _ => []

def present (s : Subject) : List Annotation :=
  let own := p.declaredOn s
  own ++ p.inheritFrom (own.map (·.type)) (s.above.flatMap p.carried)

theorem present_of_above_nil {s : Subject} (alone : s.above = []) :
    p.present s = p.declaredOn s := by
  rw [present, alone]
  exact List.append_nil _

/-- The attributes of an annotation with lists handed out as tuples. -/
def resolved (a : Annotation) : Except Fault Document.Attributes :=
  (fun attributes => attributes.map fun e => (e.1, e.2.settled)) <$> p.attributesOf a

/-- The types of the annotations that are attached, in order of appearance. -/
def mentioned : List Class := (p.attached.flatMap (·.2)).map (·.type)

theorem mem_attached_of_carried {k : Key} {a : Annotation} (member : a ∈ p.carried k) :
    ∃ l, (k, l) ∈ p.attached ∧ a ∈ l := by
  unfold carried Dictionary.get? at member
  cases found : p.attached.find? (·.1 == k) with
  | none => simp [found] at member
  | some e =>
    rw [found] at member
    obtain rfl : e.1 = k := by simpa using List.find?_some found
    exact ⟨e.2, List.mem_of_find?_eq_some found, member⟩

theorem mem_of_mem_inheritFrom {a : Annotation} {annotations : List Annotation}
    {seen : List Class} (member : a ∈ p.inheritFrom seen annotations) : a ∈ annotations := by
  induction annotations generalizing seen with
  | nil => cases member
  | cons b rest ih =>
    unfold inheritFrom at member
    split at member
    · exact List.mem_cons_of_mem _ (ih member)
    · rcases List.mem_cons.1 member with rfl | later
      · exact List.mem_cons_self
      · exact List.mem_cons_of_mem _ (ih later)

/-- Whatever is declared on a subject is carried under the key of its namespace. -/
theorem exists_carried_of_declaredOn {s : Subject} {a : Annotation}
    (member : a ∈ p.declaredOn s) : ∃ k, s.namespace? = some k ∧ a ∈ p.carried k := by
  unfold declaredOn at member
  cases shown : s.namespace? with
  | none =>
    rw [shown] at member
    cases member
  | some k =>
    rw [shown] at member
    exact ⟨k, rfl, member⟩

/-- Whatever is present is carried by something. -/
theorem exists_carried_of_present {s : Subject} {a : Annotation} (member : a ∈ p.present s) :
    ∃ k, a ∈ p.carried k := by
  rcases List.mem_append.1 member with own | inherited
  · obtain ⟨k, -, holds⟩ := p.exists_carried_of_declaredOn own
    exact ⟨k, holds⟩
  · obtain ⟨k, _, holds⟩ := List.mem_flatMap.1 (p.mem_of_mem_inheritFrom inherited)
    exact ⟨k, holds⟩

theorem type_mem_mentioned {s : Subject} {a : Annotation} (member : a ∈ p.present s) :
    a.type ∈ p.mentioned := by
  obtain ⟨k, carried⟩ := p.exists_carried_of_present member
  obtain ⟨l, here, holds⟩ := p.mem_attached_of_carried carried
  exact List.mem_map_of_mem (List.mem_flatMap_of_mem here holds)

/-- An annotation of a type of which some annotation is attached. -/
abbrev Listed := { a : Annotation // a.type ∈ p.mentioned }

def listed (s : Subject) : List p.Listed :=
  (p.present s).attach.map fun a => ⟨a.1, p.type_mem_mentioned a.2⟩

def model : Model Subject p.Listed Class where
  lookUp _ := .ok ()
  annotations := p.listed
  typeOf a := a.1.type
  declaration := .type
  name := Class.qualifiedName
  attributes a := p.resolved a.1
  shown := p.shown
  types := p.mentioned
  typeOf_mem a := a.2

end Hallmark.Program
