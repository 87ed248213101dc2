/-
# Hallmark.Program.Class -- classes and what is known of them

A class has a number of its own, a name, a path that also names the classes around it,
and a home module.  A class with the class of all annotations among its ancestors is an
annotation type.  Classes are compared as they were declared, so two declarations of
one name are two classes.
-/
import Hallmark.Document.Display

namespace Hallmark.Program

set_option autoImplicit false

/-- What an annotation can be attached to. -/
inductive Kind where
  | annotationType
  | type
  | function
  | object
deriving DecidableEq, Repr

namespace Kind

def name : Kind → String
  | .annotationType => "annotation_type"
  | .type => "type"
  | .function => "function"
  | .object => "object"

def all : List Kind := [.annotationType, .type, .function, .object]

def ofName? (s : String) : Option Kind := all.find? (·.name = s)

end Kind

/-- Where members are found. -/
inductive Place where
  | module (name : String)
  /-- The thing of a number. -/
  | inside (number : Nat)
  /-- A class or function of the library, by what declares it and its name there. -/
  | library (home name : String)
deriving DecidableEq, Repr

/-- What can carry annotations, known by the place that it is and by its kind. -/
structure Key where
  place : Place
  kind : Kind
deriving DecidableEq, Repr

/-- How a new instance of a class is written. -/
inductive Appearance where
  /-- As the call that makes it. -/
  | call
  /-- As the number zero. -/
  | zero
deriving DecidableEq, Repr

structure Class where
  number : Nat
  name : String
  path : String
  home : String
  /-- The nearest first, without the class itself. -/
  ancestors : List Key
  /-- Whether its instances have room for attributes. -/
  hasRoom : Bool
  appearance : Appearance
  /-- Whether attributes can be set on the class. -/
  isFixed : Bool
deriving DecidableEq, Repr

namespace Class

/-- The number of the class of all annotations. -/
def annotationNumber : Nat := 0

/-- The number of the class of whole numbers. -/
def wholeNumber : Nat := 6

def isAnnotationType (c : Class) : Bool :=
  c.number = annotationNumber || c.ancestors.contains ⟨.inside annotationNumber, .annotationType⟩

def kind (c : Class) : Kind := if c.isAnnotationType then .annotationType else .type

def key (c : Class) : Key := ⟨.inside c.number, c.kind⟩

/-- Whether the instances of a class are whole numbers, which are made without arguments. -/
def isWhole (c : Class) : Bool :=
  c.number = wholeNumber || c.ancestors.contains ⟨.inside wholeNumber, .type⟩

/-- Whether `d` is `c` or one of its ancestors. -/
def isA (c d : Class) : Bool := c.key = d.key || c.ancestors.contains d.key

def qualifiedName (c : Class) : String := c.home ++ "." ++ c.path

/-- The module of the classes that are built in. -/
def builtinHome : String := "builtins"

/-- The classes of that module go by their names alone. -/
def shown (c : Class) : String :=
  "<class '" ++ (if c.home = builtinHome then c.name else c.qualifiedName) ++ "'>"

end Class

end Hallmark.Program
