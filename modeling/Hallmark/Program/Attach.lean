/-
# Hallmark.Program.Attach -- attaching annotations

Attaching puts an annotation in front of those that a subject carries.  It is refused
when a restriction on the type of the annotation does not admit the kind of the subject,
and when the subject takes no attributes; nothing changes then.  What an annotation is
asked for on the way, it is asked for by name: a field may stand in the place of the
function of the library, which then cannot be called, or another function, which is called.

Annotations are set as an attribute and read from the namespace of a subject.  The two lead
to one place (`namespace_of_slot`) but for a function as a member of something: it has no
attributes of its own, and what is read through it is the namespace of the function.
-/
import Hallmark.Program.Builtin

namespace Hallmark.Program

set_option autoImplicit false

open Document

/-- The attribute that holds the annotations of a subject. -/
def annotationsAttribute : String := "__metamatch_annotations__"

inductive Refusal where
  | notAdmitted (type : String) (kinds : List String) (kind : Kind)
  | noAttribute (sort : String)
  | readOnly (sort : String)
  | fixedType (name : String)
  | frozen
deriving Repr

def Refusal.message : Refusal → String
  | .notAdmitted type kinds kind =>
    "@" ++ type ++ " applies to " ++ commaSeparated kinds ++ ", not " ++ kind.name
  | .noAttribute sort => "'" ++ sort ++ "' object has no attribute '" ++ annotationsAttribute ++ "'"
  | .readOnly sort =>
    "'" ++ sort ++ "' object attribute '" ++ annotationsAttribute ++ "' is read-only"
  | .fixedType name =>
    "cannot set '" ++ annotationsAttribute ++ "' attribute of immutable type '" ++ name ++ "'"
  | .frozen => "cannot assign to field '" ++ annotationsAttribute ++ "'"

structure AttachError where
  subject : Subject
  shown : String
  refusal : Refusal

def AttachError.message (e : AttachError) : String :=
  "Cannot annotate " ++ e.shown ++ ": " ++ e.refusal.message

variable (p : Program)

/-- The refusal of a subject, which names it and so fails if it cannot be written. -/
def refusal (s : Subject) (r : Refusal) : Failure AttachError :=
  match p.shown s with
  | .ok shown => .refused ⟨s, shown, r⟩
  | .error f => .fault f

/-- The annotations kept under a key. -/
def carried (k : Key) : List Annotation := (p.attached.get? k).getD []

/-- The key under which the annotations are kept that a subject shows, if it has a namespace;
instances without room have none, and a function as a member shows that of the function. -/
def Subject.namespace? : Subject → Option Key
  | .type c => some c.key
  | .function number _ => some ⟨.inside number, .function⟩
  | .object number d _ _ => if d.type.hasRoom then some ⟨.inside number, .object⟩ else none
  | .module name => some ⟨.module name, .object⟩
  | .library home name isClass => some ⟨.library home name, if isClass then .type else .function⟩
  | .method callee _ => callee.namespace?
  | _ => none

/-- The annotations in the namespace of a subject. -/
def declaredOn (s : Subject) : List Annotation := (s.namespace?.map p.carried).getD []

/-! ## What an annotation is asked for -/

/-- What stands in the place of a function of the library, if something else does; a value
there cannot be called. -/
def replacing (home name : String) (missing : Fault) :
    Option Subject → Except Fault (Option Subject)
  | none => .error missing
  | some (.value v) => .error (.notCallable v.sortName)
  | some (.library h n false) =>
    .ok (if h = home ∧ n = name then none else some (.library h n false))
  | some f => .ok (some f)

/-- The attributes that an annotation reads out. -/
def attributesOf (a : Annotation) : Except Fault Attributes := do
  let missing := .noMember a.type.name "attributes"
  match ← replacing baseHome "attributes" missing (p.offered? a "attributes") with
  | none => return a.attributes
  | some f => p.conduct.attributes f a

/-- The kinds that a restriction admits, as they were written. -/
def kindsOf (a : Annotation) : Value :=
  match p.offered? a "kinds" with
  | some (.value v) => v
  | _ => everyKind

/-- Whether a part stands somewhere in a text. -/
def standsIn (part : List Char) : List Char → Bool
  | [] => part.isEmpty
  | c :: rest => part.isPrefixOf (c :: rest) || standsIn part rest

theorem standsIn_iff (part text : List Char) : standsIn part text = true ↔ part <:+: text := by
  induction text with
  | nil => simp [standsIn]
  | cons c rest ih =>
    rw [standsIn, Bool.or_eq_true, ih, List.isPrefixOf_iff_prefix, List.infix_cons_iff]

/-- Whether a kind is named in a text, or is among the items of a collection. -/
def names (kinds : Value) (k : Kind) : Except Fault Bool :=
  match kinds with
  | .text s => .ok (standsIn k.name.toList s.toList)
  | v =>
    match v.items? with
    | some items => .ok (items.any (· == .text k.name))
    | none => .error (.notContainer v)

/-- Whether some kinds admit a kind; if they admit types they admit annotation types. -/
def admitting (kinds : Value) (k : Kind) : Except Fault Bool := do
  if ← names kinds k then return true
  else if k = .annotationType then names kinds .type
  else return false

/-- Whether a restriction admits a kind. -/
def allows (a : Annotation) (k : Kind) : Except Fault Bool := do
  let missing := .noMember a.type.name "allows"
  match ← replacing describingHome "allows" missing (p.offered? a "allows") with
  | none => admitting (p.kindsOf a) k
  | some f => p.conduct.allows f a k

/-! ## Attaching -/

/-- The restrictions on a class. -/
def restrictions (c : Class) : List Annotation :=
  (p.declaredOn (.type c)).filter fun a => a.type.isA .target

/-- Why some restrictions do not admit annotations of a class on a kind of subject, if
they do not. -/
def firstObjection (c : Class) (kind : Kind) : List Annotation → Except Fault (Option Refusal)
  | [] => .ok none
  | a :: rest => do
    if ← p.allows a kind then firstObjection c kind rest
    else return some (.notAdmitted c.name (← allText (← (p.kindsOf a).items)) kind)

def objection? (c : Class) (kind : Kind) : Except Fault (Option Refusal) :=
  p.firstObjection c kind (p.restrictions c)

/-- Whether annotations of a class are admitted on a kind of subject. -/
def admits (c : Class) (kind : Kind) : Bool :=
  match p.objection? c kind with
  | .ok none => true
  | _ => false

/-- Whether a class or one in its line carries annotations. -/
def lineCarries (c : Class) : Bool := (c.key :: c.ancestors).any fun k => !(p.carried k).isEmpty

/-- The key under which a subject takes an attribute; of a feature it is not known whether
it takes any. -/
def slot (s : Subject) (name : String) : Except Refusal Key :=
  match s with
  | .type c => if c.isFixed then .error (.fixedType c.name) else .ok c.key
  | .function number _ => .ok ⟨.inside number, .function⟩
  | .object number d _ _ =>
    if d.freezes name then .error .frozen
    else if d.type.hasRoom then .ok ⟨.inside number, .object⟩
    else .error (if p.lineCarries d.type then .readOnly d.type.name else .noAttribute d.type.name)
  | .primitive _ => .error (.noAttribute "builtin_function_or_method")
  | .value v => .error (.noAttribute v.sortName)
  | .module home => .ok ⟨.module home, .object⟩
  | .library home name isClass =>
    .ok ⟨.library home name, if isClass then .type else .function⟩
  | .method _ _ => .error (.noAttribute "method")
  | .annotations _ => .error (.noAttribute "tuple")
  | .feature _ _ => .error (.noAttribute "object")

def attach (s : Subject) (a : Annotation) : Except (Failure AttachError) Program :=
  match p.objection? a.type s.kind with
  | .error f => .error (.fault f)
  | .ok (some r) => .error (p.refusal s r)
  | .ok none =>
    match p.slot s annotationsAttribute with
    | .error r => .error (p.refusal s r)
    | .ok k => .ok { p with attached := p.attached.put k (a :: p.declaredOn s) }

/-- Calls an annotation with a subject: it attaches itself, unless it has something else in
the place of its call, which attaches nothing but by calls of its own. -/
def attachByCall (s : Subject) (a : Annotation) : Except (Failure AttachError) Program := do
  let missing := .notCallable a.type.name
  let call := replacing baseHome "__call__" missing (p.lineMember? a.type "__call__")
  match ← call.mapError .fault with
  | none => p.attach s a
  | some f => (fun _ => p) <$> (p.conduct.calls f a s).mapError .fault

/-- An attribute is set where it is read, under the key of the subject. -/
theorem namespace_of_slot {s : Subject} {name : String} {k : Key}
    (taken : p.slot s name = .ok k) : s.namespace? = some k ∧ s.key? = some k := by
  unfold slot at taken
  split at taken
  · split at taken
    · cases taken
    · cases taken
      exact ⟨rfl, rfl⟩
  · cases taken
    exact ⟨rfl, rfl⟩
  · split at taken
    · cases taken
    · split at taken
      · rename_i room
        cases taken
        exact ⟨if_pos room, rfl⟩
      · cases taken
  · cases taken
  · cases taken
  · cases taken
    exact ⟨rfl, rfl⟩
  · cases taken
    exact ⟨rfl, rfl⟩
  all_goals cases taken

/-- An attachment is the latest under one key and leaves all others alone. -/
theorem carried_attach {p q : Program} {s : Subject} {a : Annotation}
    (attached : p.attach s a = .ok q) :
    ∃ k, s.namespace? = some k ∧ s.key? = some k ∧
      ∀ other, q.carried other = if other = k then a :: p.carried k else p.carried other := by
  unfold attach at attached
  split at attached
  · cases attached
  · cases attached
  · split at attached
    · cases attached
    · rename_i k taken
      cases attached
      obtain ⟨shown, kept⟩ := p.namespace_of_slot taken
      refine ⟨k, shown, kept, fun other => ?_⟩
      have read : p.declaredOn s = p.carried k := by rw [declaredOn, shown]; rfl
      rw [carried, Dictionary.get?_put, read]
      split <;> rfl

end Hallmark.Program
