/-
# Hallmark.Program.Builtin -- the annotations that describe annotations

Every annotation type descends from one class.  Three types describe other types:
*documented* ones, ones restricted to some *targets*, and *inherited* ones, whose
annotations on a class also hold for its subclasses.  They describe one another: all
three are documented and can only be attached to annotation types.  *Metadata* is for
classes and functions; a *selection* holds a query.
-/
import Hallmark.Program.Basic
import Hallmark.Query.Expression

namespace Hallmark.Program

set_option autoImplicit false

open Document

def baseHome : String := "metamatch.annotations.base"

def describingHome : String := "metamatch.annotations.builtin"

def publicHome : String := "metamatch.api"

namespace Class

/-- The class of all annotations. -/
def base : Class :=
  ⟨annotationNumber, "Annotation", "Annotation", baseHome, [], true, .call, false⟩

/-- A class directly below that of all annotations. -/
def below (number : Nat) (name home : String) : Class :=
  ⟨number, name, name, home, [base.key], true, .call, false⟩

def documented : Class := below 1 "Documented" describingHome

def target : Class := below 2 "Target" describingHome

def inherited : Class := below 3 "Inherited" describingHome

def metadata : Class := below 4 "MetaData" publicHome

def selection : Class := below 5 "Where" publicHome

/-- Whole numbers, a class on which nothing can be set. -/
def whole : Class := ⟨wholeNumber, "int", "int", builtinHome, [], false, .zero, true⟩

end Class

def everyKind : Value := .tuple (Kind.all.map fun k => .text k.name)

namespace Definition

def base : Definition := ⟨⟨.base, true, some [], none⟩, []⟩

def below (type : Class) (fields : Attributes) (completion : Option Completion) : Definition :=
  ⟨⟨type, true, some fields, completion⟩, [base.form]⟩

def documented : Definition := below .documented [] none

def target : Definition := below .target [(.text "kinds", everyKind)] (some .kinds)

def inherited : Definition := below .inherited [] none

def metadata : Definition :=
  below .metadata [(.text "kind", .text ""), (.text "properties", .tuple [])] (some .properties)

def selection : Definition :=
  below .selection [(.text "metadata", .text Query.matchAll)] none

def whole : Definition := ⟨⟨.whole, false, none, none⟩, []⟩

end Definition

namespace Annotation

def documented : Annotation := ⟨.documented, []⟩

/-- The restriction to some kinds of targets. -/
def restriction (kinds : List Kind) : Annotation :=
  ⟨.target, [(.text "kinds", .tuple (kinds.map fun k => .text k.name))]⟩

end Annotation

/-- The criterion that a selection with some arguments holds: by default, everything. -/
def criterionOf (given : Dictionary Value Value) : Except (Failure UnknownKinds) Value :=
  (fun a => (a.attributes.get? (.text "metadata")).getD .none) <$>
    Definition.selection.form.make given

/-! ## The program before anything is declared -/

/-- The functions of annotation types, which only a field of their name can hide. -/
def functionNames : List (Class × String) :=
  [(.base, "__call__"), (.base, "attributes"), (.target, "allows"),
    (.target, Completion.hook), (.metadata, Completion.hook)]

/-- The values that annotation types hold: defaults of fields, and a constant. -/
def constants : List (Class × String × Value) :=
  [(.target, "kinds", everyKind), (.metadata, "kind", .text ""),
    (.metadata, "properties", .tuple []), (.selection, "DONT_MATCH", .text Query.matchAll),
    (.selection, "metadata", .text Query.matchAll)]

def annotationTypes : List Class :=
  [.base, .documented, .target, .inherited, .metadata, .selection]

def initialMembers : Dictionary (Place × String) Subject :=
  functionNames.map (fun e => ((.inside e.1.number, e.2), .library e.1.home e.2 false))
    ++ constants.map (fun e => ((.inside e.1.number, e.2.1), .value e.2.2))
    ++ annotationTypes.flatMap fun c =>
      (recordFeatures (.type c) ++ watching c).map fun e => ((.inside c.number, e.1), e.2)

/-- What is attached from the beginning. -/
def initialAttached : Dictionary Key (List Annotation) :=
  let describing : List Annotation := [.restriction [.annotationType], .documented]
  [(Class.documented.key, describing), (Class.target.key, describing),
    (Class.inherited.key, describing),
    (Class.metadata.key, [.documented, .restriction [.type, .function]]),
    (Class.selection.key, [.documented])]

/-- The program of some conduct in which nothing is declared yet. -/
def blank (conduct : Conduct) : Program where
  declared := 7
  members := initialMembers
  attached := initialAttached
  conduct := conduct

def initial : Program := blank .silent

end Hallmark.Program
