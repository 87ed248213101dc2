/-
# Hallmark.Proofs.Program.Session -- the programs that declaring and attaching lead to

A `Session` is a program together with the classes that can be extended and instantiated and
the subjects that can be annotated.  It begins with what is built in, and with functions of
whatever conduct.  A step declares something from known classes, gives a known subject a place,
brings functions to another conduct, or attaches a new annotation of a known class to a known
subject; what is refused leaves no other session and is no step.  Of a feature of which only the
family is known nothing can be told but that nothing was attached, so it is no target where its
family can take attributes.  An invariant of the sessions that are reached is proved from what
each function of a program does to it.

Here the invariant is that no annotation has two attributes of one name: the fields of a
class are put together one by one, those of its ancestors first, a new annotation puts the
given values in their place, and completing it replaces one of them.
-/
import Hallmark.Program.Presence

namespace Hallmark.Program

set_option autoImplicit false

open Document

/-! ## Sessions -/

/-- What is there from the beginning and known by its name. -/
def Subject.isNamed : Subject → Bool
  | .module _ => true
  | .library _ _ _ => true
  | _ => false

/-- Whether it is known what becomes of an attachment to a subject. -/
def Subject.isTarget : Subject → Bool
  | .feature family _ => !family.takesAttributes
  | _ => true

/-- The names under which a class can have something that is asked in the place of what sets and
reads the attributes of its instances, and the name under which annotations are kept. -/
def attributeHooks : List String :=
  ["__getattribute__", "__setattr__", "__dict__", annotationsAttribute]

structure Session where
  program : Program
  definitions : List Definition
  subjects : List Subject

namespace Session

def builtin : List Definition :=
  [.base, .documented, .target, .inherited, .metadata, .selection, .whole]

/-- The session of some conduct in which nothing has been done yet. -/
def opening (conduct : Conduct) : Session :=
  ⟨Program.blank conduct, builtin, builtin.map fun d => .type d.type⟩

def initial : Session := opening .silent

/-- Whatever can carry annotations is known once it is declared; modules and what the library
declares are known by their names. -/
def Knows (s : Session) (x : Subject) : Prop :=
  x.key? = none ∨ x.isNamed = true ∨ x ∈ s.subjects

/-- What a session becomes by one declaration or attachment. -/
inductive Next (s : Session) : Session → Prop where
  | recordClass {h : Header} {bases : List Definition} {own : Attributes} {p : Program} {d : Definition}
    (known : ∀ b ∈ bases, b ∈ s.definitions)
    (declared : s.program.declareRecord h bases own = .ok (p, d)) :
    Next s ⟨p, d :: s.definitions, .type d.type :: s.subjects⟩
  | plainClass {h : Header} {bases : List Definition} {slots : Bool} {p : Program} {d : Definition}
    (known : ∀ b ∈ bases, b ∈ s.definitions)
    (declared : s.program.declareClass h bases slots = .ok (p, d)) :
    Next s ⟨p, d :: s.definitions, .type d.type :: s.subjects⟩
  | function {name : String} {p : Program} {x : Subject}
    (declared : s.program.declareFunction name = (p, x)) :
    Next s ⟨p, s.definitions, x :: s.subjects⟩
  | object {d : Definition} {given : Dictionary Value Value} {name : Option String} {p : Program}
    {x : Subject} (known : d ∈ s.definitions)
    (declared : s.program.declareObject d given name = .ok (p, x)) :
    Next s ⟨p, s.definitions, x :: s.subjects⟩
  | member {place : Place} {name : String} {x : Subject} (known : s.Knows x) :
    Next s ⟨s.program.bind place name x, s.definitions, s.subjects⟩
  /-- What functions do can come to depend on what has been done before. -/
  | behaves (conduct : Conduct) :
    Next s ⟨{ s.program with conduct := conduct }, s.definitions, s.subjects⟩
  /-- Calling an annotation that is not called by another function ends in the same attachment. -/
  | attached {x : Subject} {d : Definition} {given : Dictionary Value Value} {a : Annotation}
    {p : Program} (known : s.Knows x) (target : x.isTarget = true) (instantiable : d ∈ s.definitions)
    (made : d.form.make given = .ok a) (accepted : s.program.attach x a = .ok p) :
    Next s ⟨p, s.definitions, s.subjects⟩

inductive Reached : Session → Prop where
  | opening (conduct : Conduct) : Reached (opening conduct)
  | step {s t : Session} (reached : Reached s) (next : s.Next t) : Reached t

end Session

/-! ## What declaring leaves alone -/

variable {p q : Program} {d : Definition} {bases : List Definition}

theorem carried_congr (same : q.attached = p.attached) : q.carried = p.carried := by
  funext k
  rw [carried, carried, same]

theorem attached_foldl_bind {α : Type} (place : Place) (name : α → String) (member : α → Subject)
    (l : List α) (p : Program) :
    (l.foldl (fun q e => q.bind place (name e) (member e)) p).attached = p.attached := by
  induction l generalizing p with
  | nil => rfl
  | cons e rest ih => exact ih _

/-- The ancestors of a class are in the lines of its bases. -/
theorem mem_line_of_ancestorsOf {name : String} {ancestors : List Form}
    (ordered : ancestorsOf name bases = .ok ancestors) :
    ∀ f ∈ ancestors, ∃ d ∈ bases, f ∈ d.line := by
  simp only [ancestorsOf, bind_eq_ok_iff] at ordered
  obtain ⟨-, -, ordered⟩ := ordered
  split at ordered
  · cases ordered
  · split at ordered
    · cases ordered
    · cases ordered
      intro f member
      obtain ⟨c, -, chosen⟩ := List.mem_filterMap.1 member
      exact List.mem_flatMap.1 (List.mem_of_find?_eq_some chosen)

theorem declareRecord_spec {h : Header} {own : Attributes}
    (declared : p.declareRecord h bases own = .ok (q, d)) :
    q.attached = p.attached ∧ ancestorsOf h.name bases = .ok d.ancestors ∧
      d.form.fields = some (recordFields d.ancestors own) := by
  simp only [declareRecord, bind_eq_ok_iff] at declared
  obtain ⟨ancestors, ordered, returned⟩ := declared
  cases returned
  exact ⟨attached_foldl_bind _ _ _ _ _, ordered, rfl⟩

theorem declareClass_spec {h : Header} {slots : Bool}
    (declared : p.declareClass h bases slots = .ok (q, d)) :
    q.attached = p.attached ∧ ancestorsOf h.name bases = .ok d.ancestors ∧
      ∃ type, d.form = inheritedForm type d.ancestors := by
  simp only [declareClass, bind_eq_ok_iff] at declared
  obtain ⟨ancestors, ordered, returned⟩ := declared
  cases returned
  exact ⟨attached_foldl_bind _ _ _ _ _, ordered, _, rfl⟩

theorem declareObject_spec {given : Dictionary Value Value} {name : Option String} {x : Subject}
    (declared : p.declareObject d given name = .ok (q, x)) : q.attached = p.attached := by
  simp only [declareObject, bind_eq_ok_iff] at declared
  obtain ⟨a, -, returned⟩ := declared
  cases returned
  rfl

/-! ## Distinct attributes -/

/-- No class in the line of a definition has two fields of one name. -/
def Definition.Tidy (d : Definition) : Prop :=
  ∀ f ∈ d.line, Dictionary.Distinct (f.fields.getD [])

theorem distinct_foldl_merge (l : List Attributes) {base : Attributes}
    (distinct : Dictionary.Distinct base) :
    Dictionary.Distinct (l.foldl Dictionary.merge base) := by
  induction l generalizing base with
  | nil => exact distinct
  | cons added rest ih => exact ih (distinct.merge added)

theorem distinct_recordFields (ancestors : List Form) (own : Attributes) :
    Dictionary.Distinct (recordFields ancestors own) :=
  (distinct_foldl_merge _ Dictionary.distinct_nil).merge own

theorem distinct_inheritedForm (type : Class) {ancestors : List Form}
    (tidy : ∀ f ∈ ancestors, Dictionary.Distinct (f.fields.getD [])) :
    Dictionary.Distinct ((inheritedForm type ancestors).fields.getD []) := by
  unfold inheritedForm
  split
  · exact Dictionary.distinct_nil
  · rename_i record nearest
    exact tidy record (List.mem_of_find?_eq_some nearest)

/-- Completing puts one attribute, if any. -/
theorem Completion.distinct_apply {c : Completion} {attributes completed : Attributes}
    (applied : c.apply attributes = .ok completed) (distinct : Dictionary.Distinct attributes) :
    Dictionary.Distinct completed := by
  unfold apply at applied
  split at applied
  · cases applied
    exact distinct
  · split at applied
    · cases applied
    · simp only [bind_eq_ok_iff] at applied
      obtain ⟨whole, -, -, -, returned⟩ := applied
      cases returned
      exact distinct.put _ whole

theorem Form.distinct_make {f : Form} {given : Dictionary Value Value} {a : Annotation}
    (made : f.make given = .ok a) (tidy : Dictionary.Distinct (f.fields.getD [])) :
    Dictionary.Distinct a.attributes := by
  simp only [make, bind_eq_ok_iff] at made
  obtain ⟨-, -, -, -, made⟩ := made
  split at made
  · cases made
    exact tidy.merge given
  · simp only [bind_eq_ok_iff] at made
    obtain ⟨completed, applied, returned⟩ := made
    cases returned
    exact Completion.distinct_apply applied (tidy.merge given)

/-- Attributes of one name are neither declared nor carried. -/
structure Session.Tidy (s : Session) : Prop where
  definitions : ∀ d ∈ s.definitions, d.Tidy
  carried : ∀ k, ∀ a ∈ s.program.carried k, Dictionary.Distinct a.attributes

namespace Session

variable {s : Session}

theorem tidy_opening (conduct : Conduct) : (opening conduct).Tidy where
  definitions := by
    have fields : ∀ d ∈ builtin, ∀ f ∈ d.line, Dictionary.Distinct (f.fields.getD []) := by decide
    exact fields
  carried := by
    have attached : ∀ e ∈ initialAttached, ∀ a ∈ e.2, Dictionary.Distinct a.attributes := by
      decide
    intro k a member
    obtain ⟨l, here, holds⟩ := (Program.blank conduct).mem_attached_of_carried member
    exact attached _ here a holds

theorem Definition.tidy_of_ancestors {name : String} (bases_tidy : ∀ b ∈ bases, b.Tidy)
    (ordered : ancestorsOf name bases = .ok d.ancestors)
    (fields : (∀ f ∈ d.ancestors, Dictionary.Distinct (f.fields.getD [])) →
      Dictionary.Distinct (d.form.fields.getD [])) : d.Tidy := by
  have inherited : ∀ f ∈ d.ancestors, Dictionary.Distinct (f.fields.getD []) := by
    intro f member
    obtain ⟨b, listed, inLine⟩ := mem_line_of_ancestorsOf ordered f member
    exact bases_tidy b listed f inLine
  exact List.forall_mem_cons.2 ⟨fields inherited, inherited⟩

/-- Declaring keeps what is carried tidy. -/
theorem Tidy.of_kept {t : Session} (tidy : s.Tidy) (kept : t.program.attached = s.program.attached)
    (definitions : ∀ d ∈ t.definitions, d.Tidy) : t.Tidy where
  definitions := definitions
  carried := by
    rw [carried_congr kept]
    exact tidy.carried

theorem Tidy.next {t : Session} (tidy : s.Tidy) (next : s.Next t) : t.Tidy := by
  cases next with
  | recordClass known declared =>
    obtain ⟨kept, ordered, fields⟩ := declareRecord_spec declared
    refine tidy.of_kept kept (List.forall_mem_cons.2 ⟨?_, tidy.definitions⟩)
    refine Definition.tidy_of_ancestors (fun b member => tidy.definitions b (known b member))
      ordered fun _ => ?_
    rw [fields]
    exact distinct_recordFields _ _
  | plainClass known declared =>
    obtain ⟨kept, ordered, type, form⟩ := declareClass_spec declared
    refine tidy.of_kept kept (List.forall_mem_cons.2 ⟨?_, tidy.definitions⟩)
    refine Definition.tidy_of_ancestors (fun b member => tidy.definitions b (known b member))
      ordered fun inherited => ?_
    rw [form]
    exact distinct_inheritedForm type inherited
  | function declared =>
    cases declared
    exact tidy.of_kept rfl tidy.definitions
  | object _ declared => exact tidy.of_kept (declareObject_spec declared) tidy.definitions
  | member => exact tidy.of_kept rfl tidy.definitions
  | behaves => exact tidy.of_kept rfl tidy.definitions
  | attached _ _ instantiable made accepted =>
    have fresh := Form.distinct_make made (tidy.definitions _ instantiable _ List.mem_cons_self)
    refine ⟨tidy.definitions, fun other => ?_⟩
    obtain ⟨k, -, -, carried⟩ := carried_attach accepted
    rw [carried other]
    split
    · exact List.forall_mem_cons.2 ⟨fresh, tidy.carried k⟩
    · exact tidy.carried other

/-- **No annotation in a session has two attributes of one name.** -/
theorem Reached.tidy (reached : s.Reached) : s.Tidy := by
  induction reached with
  | opening conduct => exact tidy_opening conduct
  | step _ next ih => exact ih.next next

/-- Attributes are read out without repetitions, whatever reads them. -/
theorem Reached.distinct_of_attributesOf (reached : s.Reached) {k : Key} {a : Annotation}
    (carried : a ∈ s.program.carried k) {attributes : Attributes}
    (read : s.program.attributesOf a = .ok attributes) : Dictionary.Distinct attributes := by
  obtain ⟨replaced, -, read⟩ := bind_eq_ok_iff.1 read
  cases replaced with
  | none =>
    cases read
    exact reached.tidy.carried k a carried
  | some f => exact s.program.conduct.distinct f a attributes read

end Session

end Hallmark.Program
