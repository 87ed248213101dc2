/-
# Hallmark.Program.Import -- subjects by where they are declared

A subject is written `module:path`, the module up to the first `:` and the path as names
between points.  The module must be known; a module below another can be known only if
that one is a package.  Then the path is followed member by member: a class also has the
members of its ancestors, and an object those of its class.  The annotations that something
carries are a member of it, and last come the members that it has because of what it is.
-/
import Hallmark.Program.Library
import Hallmark.Program.Presence

namespace Hallmark.Program

set_option autoImplicit false

open Document

inductive ImportError where
  | form (written : String)
  | noModule (name missing : String)
  | notPackage (name missing parent : String)
  | noMember (name path : String)
deriving Repr

namespace ImportError

def noModuleText (name missing : String) : String :=
  "Cannot import module '" ++ name ++ "': No module named " ++ Text.quoted missing

def message : ImportError → String
  | .form written => "Target must look like 'package.module:attribute', got '" ++ written ++ "'"
  | .noModule name missing => noModuleText name missing
  | .notPackage name missing parent =>
    noModuleText name missing ++ "; " ++ Text.quoted parent ++ " is not a package"
  | .noMember name path => "'" ++ name ++ "' has no attribute '" ++ path ++ "'"

end ImportError

variable (p : Program)

/-! ## Modules -/

/-- Whether something is declared in a module. -/
def hasDeclared (name : String) : Bool := p.members.any fun e => e.1.1 = .module name

def isKnownModule (name : String) : Bool := (Library.module? name).isSome || p.hasDeclared name

def isPackage (name : String) : Bool := (Library.module? name).any (·.isPackage)

/-- The name whose steps are given last first. -/
def moduleName (steps : List String) : String := ".".intercalate steps.reverse

/-- Whether the module with these steps, last first, can be loaded for `wanted`. -/
def load (wanted : String) : List String → Except ImportError Unit
  | [] => .ok ()
  | last :: above =>
    let name := moduleName (last :: above)
    if p.isKnownModule name then .ok ()
    else if above.isEmpty then .error (.noModule wanted name)
    else do
      load wanted above
      let parent := moduleName above
      throw (if isPackage parent then .noModule wanted name else .notPackage wanted name parent)

/-! ## Members -/

/-- The member of a place; the modules of the library hold nothing else. -/
def memberAt? (place : Place) (name : String) : Option Subject :=
  match place with
  | .module home =>
    if (Library.module? home).isSome then Library.member? place name
    else p.members.get? (place, name)
  | .inside _ => p.members.get? (place, name)
  | .library _ _ => Library.member? place name

/-- The annotations kept under the first of some keys that keeps any, as a member. -/
def annotationsMember? (keys : List Key) (name : String) : Option Subject :=
  if name = annotationsAttribute then
    ((keys.map p.carried).find? (!·.isEmpty)).map .annotations
  else none

/-- What a class offers to itself and to its instances. -/
def classMember? (c : Class) (name : String) : Option Subject :=
  p.lineMember? c name <|> p.annotationsMember? (c.key :: c.ancestors) name
    <|> if name = "__module__" && !c.isFixed then some (.value (.text c.home)) else none

/-- The class of a key, if it is a member of something. -/
def classOf? (k : Key) : Option Class :=
  ((Class.whole :: annotationTypes) ++ p.members.filterMap fun e =>
    match e.2 with
    | .type c => some c
    | _ => none).find? (·.key = k)

/-- What a member of the class of a subject is as a member of the subject; whole numbers
cannot be watched. -/
def Subject.asMember? (owner : Subject) (isWhole : Bool) : Subject → Option Subject
  | .function number name => some (.method (.function number name) owner)
  | .library home name false => some (.method (.library home name false) owner)
  | .feature .function declarer => some (.method (.feature .function declarer) owner)
  | .feature .slot _ => if isWhole then none else some (.value .none)
  | s => some s

/-- The members that are known one by one. -/
def ownMember? (s : Subject) (name : String) : Option Subject :=
  match s with
  | .type c =>
    p.classMember? c name <|>
      match name with
      | "__name__" => some (.value (.text c.name))
      | "__qualname__" => some (.value (.text c.path))
      | "__module__" => some (.value (.text c.home))
      | "__annotations__" => if c.isFixed then none else some (.feature .mapping s)
      | "__base__" => (c.ancestors.head?.bind p.classOf?).map .type
      | _ => none
  | .function number _ =>
    p.memberAt? (.inside number) name <|> p.annotationsMember? s.key?.toList name
  | .method callee owner =>
    if name = "__func__" then some callee
    else if name = "__self__" then some owner
    else ownMember? callee name
  | .object number d attributes _ =>
    p.memberAt? (.inside number) name
      <|> (attributes.get? (.text name)).map .value
      <|> p.annotationsMember? s.key?.toList name
      <|> (p.classMember? d.type name).bind (s.asMember? d.type.isWhole)
      <|> match name with
        | "__class__" => some (.type d.type)
        | "__dict__" => if d.type.hasRoom then some (.feature .mapping s) else none
        | _ => none
  | .module home =>
    p.memberAt? (.module home) name <|> p.annotationsMember? s.key?.toList name
      <|> if name = "__name__" then some (.value (.text home)) else none
  | .library home type true =>
    p.memberAt? (.library home type) name
      <|> p.annotationsMember? (s.key?.toList ++ s.above) name
  | .library _ _ false => p.annotationsMember? s.key?.toList name
  | .value (.whole _) => if name = "__class__" then some (.type .whole) else none
  | .feature .whole _ => if name = "__class__" then some (.type .whole) else none
  | .feature .method owner =>
    match name with
    | "__self__" => some owner
    | "__func__" => some (.feature .function owner)
    | _ => none
  | .feature .operation owner => if name = "__self__" then some owner else none
  | .feature .sign owner => if name = "__self__" then some owner else none
  | _ => none

/-- The families that a value belongs to. -/
def familyOf : Value → Family
  | .none => .nothing
  | .truth _ => .whole
  | .whole _ => .whole
  | .real _ => .real
  | .undefined _ => .real
  | .text _ => .text
  | .list _ => .list
  | .tuple _ => .tuple
  | .map _ => .mapping
  | _ => .thing

def Subject.families : Subject → List Family
  | .type c => if c.isWhole then [.wholeType, .type] else [.type]
  | .function _ _ => [.function]
  | .method _ _ => [.method]
  | .object _ d _ _ => [if d.type.isWhole then .whole else .thing]
  | .primitive _ => [.operation]
  | .value v => [familyOf v]
  | .module _ => [.module]
  | .library home _ true => if home = errorHome then [.errorType, .type] else [.type]
  | .library _ _ false => [.function]
  | .annotations _ => [.tuple]
  | .feature f _ => [f]

/-- A member that a subject has because of what it is. -/
def feature? (s : Subject) (name : String) : Option Subject :=
  (s.families.findSome? (·.member? name)).map (.feature · s)

def member? (s : Subject) (name : String) : Option Subject :=
  p.ownMember? s name <|> feature? s name

/-- The subject at the end of a path of members. -/
def follow (s : Subject) (path : List String) : Option Subject := path.foldlM p.member? s

/-- The subject that a text names. -/
def find (written : String) : Except (Failure ImportError) Subject := do
  let (name, path) := Text.cut ':' written.toList
  let path := path.getD []
  if name.isEmpty || path.isEmpty then throw (.refused (.form written))
  let home := String.ofList name
  if home.front = '.' then throw (.fault (.relativeModule home))
  let steps := (Text.pieces '.' name).map String.ofList
  (p.load home steps.reverse).mapError .refused
  match p.follow (.module home) ((Text.pieces '.' path).map String.ofList) with
  | some s => return s
  | none => throw (.refused (.noMember home (String.ofList path)))

end Hallmark.Program
