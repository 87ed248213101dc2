/-
# Hallmark.Program.Basic -- declarations of a program

A program declares classes, functions and objects one after the other and numbers them.
What is declared becomes a member of a place: of a module, or of another thing that is
declared.  `Program` holds the number of declarations, the members of the places, and
the annotations that each thing carries itself, the latest first.

What the functions of a program do is not told by its declarations.  The `Conduct` of a
program tells it as far as it matters here: what they answer where they stand in the place
of a function that annotations are asked by, or by which things are written.
-/
import Hallmark.Program.Annotation
import Hallmark.Program.Family
import Hallmark.Program.Lineage

namespace Hallmark.Program

set_option autoImplicit false

open Document

/-- A class that is declared, and those in its line. -/
structure Definition where
  form : Form
  ancestors : List Form

namespace Definition

def type (d : Definition) : Class := d.form.type

def line (d : Definition) : List Form := d.form :: d.ancestors

/-- Whether the instances refuse to have an attribute set: those of a record refuse any,
and those of a class below records the fields of these. -/
def freezes (d : Definition) (name : String) : Bool :=
  d.form.isRecord || d.line.any fun f => f.isRecord && f.hasField name

end Definition

/-- What a program can refer to. -/
inductive Subject where
  | type (c : Class)
  | function (number : Nat) (name : String)
  /-- An instance of a class, with the values of its fields. -/
  | object (number : Nat) (d : Definition) (attributes : Attributes) (shown : String)
  /-- A function that is built in. -/
  | primitive (name : String)
  | value (v : Value)
  | module (name : String)
  /-- A class or function of the library that takes no part in annotating, known by the
  module or class that declares it and its name there. -/
  | library (home name : String) (isClass : Bool)
  /-- A function as a member of something. -/
  | method (callee owner : Subject)
  /-- The annotations that a subject carries. -/
  | annotations (carried : List Annotation)
  /-- A member that everything of a family has, and what it is a member of. -/
  | feature (family : Family) (owner : Subject)

namespace Subject

def kind : Subject → Kind
  | .type c => c.kind
  | .function _ _ => .function
  | .method callee _ => callee.kind
  | .primitive _ => .function
  | .library _ _ isClass => if isClass then .type else .function
  | .feature .function _ => .function
  | .feature .method _ => .function
  | .feature .operation _ => .function
  | .feature .unbound _ => .function
  | .feature .type _ => .type
  | _ => .object

/-- The key under which a subject can carry annotations, if it is one that can. -/
def key? : Subject → Option Key
  | .type c => some c.key
  | .function number _ => some ⟨.inside number, .function⟩
  | .object number _ _ _ => some ⟨.inside number, .object⟩
  | .module name => some ⟨.module name, .object⟩
  | .library home name isClass => some ⟨.library home name, if isClass then .type else .function⟩
  | _ => none

/-- The name of a function. -/
def name : Subject → String
  | .function _ name => name
  | .library _ name _ => name
  | _ => ""

end Subject

/-- The names of a class to be declared. -/
structure Header where
  name : String
  path : String
  home : String

end Hallmark.Program

namespace Hallmark

set_option autoImplicit false

open Document

/-- What is done by functions of which only the names are known, as long as a program stays as it
is: the answers depend on what a function is asked with. -/
structure Program.Conduct where
  /-- Whether a kind is allowed, by what an annotation has in the place of `allows`. -/
  allows : Program.Subject → Program.Annotation → Program.Kind → Except Fault Bool
  /-- The attributes read out, by what an annotation has in the place of `attributes`. -/
  attributes : Program.Subject → Program.Annotation → Except Fault Attributes
  distinct : ∀ f a read, attributes f a = .ok read → Dictionary.Distinct read
  /-- Calling an annotation with a subject, by what it has in the place of `__call__`. -/
  calls : Program.Subject → Program.Annotation → Program.Subject → Except Fault Unit
  /-- How an instance is written, by what its class has in the place of `__repr__`. -/
  writes : Program.Subject → Program.Annotation → Except Fault String
  /-- How a member is written of which only the family is known. -/
  shows : Program.Family → Program.Subject → Except Fault String

structure Program where
  declared : Nat
  members : Dictionary (Program.Place × String) Program.Subject
  attached : Dictionary Program.Key (List Program.Annotation)
  conduct : Program.Conduct

namespace Program

namespace Conduct

/-- That of functions which give back nothing. -/
def silent : Conduct where
  allows _ _ _ := .ok false
  attributes _ _ := .error (.noMember Value.none.sortName "items")
  distinct _ _ _ read := nomatch read
  calls _ _ _ := .ok ()
  writes _ _ := .error (.notText Value.none.sortName)
  shows _ _ := .ok "<member>"

end Conduct

/-! ## The line of a class -/

/-- The bases as a list without repetitions. -/
def distinct : List Definition → Except Fault Unit
  | [] => .ok ()
  | d :: rest =>
    if rest.any fun e => e.type = d.type then .error (.repeatedBase d.type.name) else distinct rest

/-- The classes in a line that gave whole numbers room for attributes.  As each does it in
its own way, a line can hold only one. -/
def roomGivers (line : List Form) : List Class :=
  let roomy := (line.map (·.type)).filter fun c => c.isWhole && c.hasRoom
  roomy.filter fun c => !roomy.any fun d => c.ancestors.contains d.key

/-- The ancestors of a class with some bases, nearest first. -/
def ancestorsOf (name : String) (bases : List Definition) : Except Fault (List Form) := do
  distinct bases
  let forms := bases.flatMap Definition.line
  let orders := bases.map fun d => d.line.map (·.type)
  match mergeOrders (orders ++ [bases.map Definition.type]) with
  | none => throw (.noLinearOrder name)
  | some order =>
    let ancestors := order.filterMap fun c => forms.find? fun f => f.type = c
    if 1 < (roomGivers ancestors).length then throw (.noCommonLayout name)
    return ancestors

/-- The fields of a record: those of its ancestors from the farthest on, then its own. -/
def recordFields (ancestors : List Form) (own : Attributes) : Attributes :=
  (ancestors.reverse.filterMap (·.fields)).foldl Dictionary.merge [] |>.merge own

/-- Whether all annotations of a type share the default of a field, which then is a member
of the type; what can change is made anew for each of them. -/
def isShared : Value → Bool
  | .list _ => false
  | .set _ => false
  | .map _ => false
  | _ => true

/-- How the annotations of a record are completed, which a field can hide. -/
def recordCompletion (ancestors : List Form) (own fields : Attributes) : Option Completion :=
  let inherited := ancestors.findSome? (·.completion)
  let hook : Value := .text Completion.hook
  if (fields.get? hook).isSome then
    if inherited.isSome || (own.get? hook).any isShared then some .hidden else none
  else inherited

/-- The form of a class that declares no fields: that of the nearest record. -/
def inheritedForm (type : Class) (ancestors : List Form) : Form :=
  match ancestors.find? (·.isRecord) with
  | none => ⟨type, false, none, none⟩
  | some record =>
    let completion :=
      if record.completion.isSome then ancestors.findSome? (·.completion) else none
    ⟨type, false, record.fields, completion⟩

/-! ## Declaring -/

/-- Makes a subject a member of a place, under a name that it may take from another. -/
def bind (p : Program) (place : Place) (name : String) (s : Subject) : Program :=
  { p with members := p.members.put (place, name) s }

/-- How the instances of a class without fields are written. -/
def inheritedAppearance (ancestors : List Form) : Appearance :=
  match ancestors.find? fun f => f.isRecord || f.type.number = Class.wholeNumber with
  | some f => f.type.appearance
  | none => .call

def newClass (p : Program) (h : Header) (ancestors : List Form) (hasRoom : Bool)
    (appearance : Appearance) : Class where
  number := p.declared
  name := h.name
  path := h.path
  home := h.home
  ancestors := ancestors.map (·.type.key)
  hasRoom := hasRoom
  appearance := appearance
  isFixed := false

/-- A program with one more declaration. -/
def next (p : Program) : Program := { p with declared := p.declared + 1 }

/-- The functions by which records are made, written and compared. -/
def recordFunctions : List String :=
  words "__init__ __repr__ __eq__ __hash__ __setattr__ __delattr__"

/-- The members that a class has as it is a record. -/
def recordFeatures (s : Subject) : List (String × Subject) :=
  [("__dataclass_fields__", .feature .mapping s), ("__dataclass_params__", .feature .thing s),
    ("__match_args__", .feature .tuple s), ("__doc__", .feature .text s)]
    ++ recordFunctions.map (·, .feature .function s)

/-- The member by which instances with room for attributes are watched. -/
def watching (c : Class) : List (String × Subject) :=
  if c.hasRoom && !c.isWhole then [("__weakref__", .feature .slot (.type c))] else []

/-- Declares an annotation type with fields of its own. -/
def declareRecord (p : Program) (h : Header) (bases : List Definition) (own : Attributes) :
    Except Fault (Program × Definition) := do
  let ancestors ← ancestorsOf h.name bases
  let type := p.newClass h ancestors true .call
  let fields := recordFields ancestors own
  let form : Form := ⟨type, true, some fields, recordCompletion ancestors own fields⟩
  let defaults := (own.filter fun e => isShared e.2).map fun e => (e.1.display, .value e.2)
  let members := ("__annotations__", .feature .mapping (.type type))
    :: recordFeatures (.type type) ++ watching type ++ defaults
  return (members.foldl (fun q e => q.bind (.inside p.declared) e.1 e.2) p.next,
    ⟨form, ancestors⟩)

/-- Declares a class without fields; one with slots gives its instances no attributes
unless an ancestor does. -/
def declareClass (p : Program) (h : Header) (bases : List Definition) (slots : Bool) :
    Except Fault (Program × Definition) := do
  let ancestors ← ancestorsOf h.name bases
  let hasRoom := !slots || ancestors.any fun f => f.type.hasRoom
  let type := p.newClass h ancestors hasRoom (inheritedAppearance ancestors)
  let members := ("__doc__", .value .none)
    :: if slots then [("__slots__", .value (.tuple []))] else watching type
  return (members.foldl (fun q e => q.bind (.inside p.declared) e.1 e.2) p.next,
    ⟨inheritedForm type ancestors, ancestors⟩)

def declareFunction (p : Program) (name : String) : Program × Subject :=
  (p.next, .function p.declared name)

/-- Declares an instance of a class; without a name it is written as a new annotation is. -/
def declareObject (p : Program) (d : Definition) (given : Dictionary Value Value)
    (name : Option String) : Except (Failure UnknownKinds) (Program × Subject) := do
  let a ← d.form.make given
  let shown := match name with
    | some name => "<object " ++ name ++ ">"
    | none => a.shown
  return (p.next, .object p.declared d a.attributes shown)

/-! ## Members of classes -/

/-- What a class or one in its line offers under a name, the nearest first. -/
def lineMember? (p : Program) (c : Class) (name : String) : Option Subject :=
  (c.key :: c.ancestors).findSome? fun k => p.members.get? (k.place, name)

/-- What an annotation offers under a name: a value of its own, or what its class offers. -/
def offered? (p : Program) (a : Annotation) (name : String) : Option Subject :=
  ((a.attributes.get? (.text name)).map .value) <|> p.lineMember? a.type name

/-! ## Writing -/

/-- The name under which a class offers how its instances are written. -/
def writingHook : String := "__repr__"

/-- How an instance is written, with its attributes if nothing else is offered for it. -/
def written (p : Program) (a : Annotation) (plain : String) : Except Fault String :=
  let own := (fun _ => plain) <$> (Value.map a.attributes).written
  match p.lineMember? a.type writingHook with
  | none => own
  | some (.feature .function _) => own
  | some (.value v) => .error (.notCallable v.sortName)
  | some f => p.conduct.writes f a

def shown (p : Program) : Subject → Except Fault String
  | .type c => .ok c.shown
  | .function _ name => .ok ("<function " ++ name ++ ">")
  | .object _ d attributes shown => p.written ⟨d.type, attributes⟩ shown
  | .primitive name => .ok ("<built-in function " ++ name ++ ">")
  | .value v => Value.literal <$> v.written
  | .module name => .ok ("<module " ++ Text.quoted name ++ ">")
  | .library home name true => .ok ("<class '" ++ home ++ "." ++ name ++ "'>")
  | .library _ name false => .ok ("<function " ++ name ++ ">")
  | .method callee owner =>
    (fun owner => "<bound method " ++ callee.name ++ " of " ++ owner ++ ">") <$> p.shown owner
  | .annotations carried => tupleLiteral <$> carried.mapM fun a => p.written a a.shown
  | .feature family owner => p.conduct.shows family owner

end Program

end Hallmark
