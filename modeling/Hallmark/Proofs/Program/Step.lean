/-
# Hallmark.Proofs.Program.Step -- what a step of a session can do

A step adds one declaration, attaches an annotation, or changes nothing but members and conduct
(`Session.Next.cases`).  What is added gets the next number, and members are put into it alone;
a class has the classes of its bases' lines as ancestors.

So numbers tell things apart: whatever a session has declared, and the line of every class that
it has or has annotations of, is numbered below the next declaration, and no two subjects that it
knows keep their annotations under one key (`Session.Numbered`).
-/
import Hallmark.Proofs.Program.Session

namespace Hallmark.Program

set_option autoImplicit false

open Document

/-! ## One declaration -/

/-- The keys of a class and of its ancestors. -/
def Class.line (c : Class) : List Key := c.key :: c.ancestors

/-- The ancestors that a class knows by their keys are those of its definition. -/
def Definition.Lined (d : Definition) : Prop := d.type.ancestors = d.ancestors.map (·.type.key)

variable {p q : Program} {d : Definition} {bases : List Definition}

/-- What declaring does to a program: one number is used, and members are put into nothing else. -/
structure Extends (p q : Program) : Prop where
  attached : q.attached = p.attached
  conduct : q.conduct = p.conduct
  declared : q.declared = p.declared + 1
  members : ∀ n ≠ p.declared, ∀ name,
    q.members.get? (.inside n, name) = p.members.get? (.inside n, name)

theorem extends_next (p : Program) : Extends p p.next := ⟨rfl, rfl, rfl, fun _ _ _ => rfl⟩

theorem get?_bind_of_ne {place other : Place} (ne : other ≠ place) (name wanted : String)
    (x : Subject) : (p.bind place name x).members.get? (other, wanted) =
      p.members.get? (other, wanted) := by
  have apart : ¬ (other, wanted) = (place, name) := fun same => ne (Prod.mk.inj same).1
  rw [bind, Dictionary.get?_put, if_neg apart]

theorem Extends.foldl_bind {α : Type} (name : α → String) (member : α → Subject) (l : List α)
    (extended : Extends p q) :
    Extends p (l.foldl (fun r e => r.bind (.inside p.declared) (name e) (member e)) q) := by
  induction l generalizing q with
  | nil => exact extended
  | cons e rest ih =>
    refine ih ⟨extended.attached, extended.conduct, extended.declared, fun n ne wanted => ?_⟩
    have apart : Place.inside n ≠ .inside p.declared := fun same => ne (Place.inside.inj same)
    rw [get?_bind_of_ne apart, extended.members n ne]

/-- A class that is declared: it has the next number, and its ancestors come from its bases. -/
structure Definition.New (p : Program) (bases : List Definition) (d : Definition) : Prop where
  number : d.type.number = p.declared
  lined : d.Lined
  ancestors : ∀ f ∈ d.ancestors, ∃ b ∈ bases, f ∈ b.line

theorem declareRecord_extends {h : Header} {own : Attributes}
    (declared : p.declareRecord h bases own = .ok (q, d)) : Extends p q ∧ d.New p bases := by
  have ⟨_, ordered, _⟩ := declareRecord_spec declared
  simp only [declareRecord, bind_eq_ok_iff] at declared
  obtain ⟨ancestors, -, returned⟩ := declared
  cases returned
  exact ⟨(extends_next p).foldl_bind _ _ _, rfl, rfl, mem_line_of_ancestorsOf ordered⟩

theorem type_inheritedForm (type : Class) (ancestors : List Form) :
    (inheritedForm type ancestors).type = type := by
  unfold inheritedForm
  split <;> rfl

theorem declareClass_extends {h : Header} {slots : Bool}
    (declared : p.declareClass h bases slots = .ok (q, d)) : Extends p q ∧ d.New p bases := by
  have ⟨_, ordered, _⟩ := declareClass_spec declared
  simp only [declareClass, bind_eq_ok_iff] at declared
  obtain ⟨ancestors, -, returned⟩ := declared
  cases returned
  refine ⟨(extends_next p).foldl_bind _ _ _, ?_, ?_, mem_line_of_ancestorsOf ordered⟩
  · rw [Definition.type, type_inheritedForm]
    rfl
  · rw [Definition.Lined, Definition.type, type_inheritedForm]
    rfl

theorem declareObject_extends {given : Dictionary Value Value} {name : Option String} {x : Subject}
    (declared : p.declareObject d given name = .ok (q, x)) :
    Extends p q ∧ x.key? = some ⟨.inside p.declared, .object⟩ := by
  simp only [declareObject, bind_eq_ok_iff] at declared
  obtain ⟨a, -, returned⟩ := declared
  cases returned
  exact ⟨extends_next p, rfl⟩

/-! ## One step -/

namespace Session

/-- A call that attaches a new annotation of a known class to a known subject. -/
structure Calls (s : Session) (x : Subject) (a : Annotation) : Prop where
  known : s.Knows x
  target : x.isTarget = true
  made : ∃ d ∈ s.definitions, ∃ given, d.form.make given = .ok a

/-- What a declaration adds: a subject of the next number, and perhaps it is a class. -/
structure Adds (s t : Session) : Prop where
  program : Extends s.program t.program
  subjects : ∃ x kind, t.subjects = x :: s.subjects ∧ x.key? = some ⟨.inside s.program.declared, kind⟩
  definitions : t.definitions = s.definitions ∨
    ∃ d bases, t.definitions = d :: s.definitions ∧ (∀ b ∈ bases, b ∈ s.definitions) ∧
      d.New s.program bases

variable {s t : Session}

theorem Next.cases (next : s.Next t) : s.Adds t ∨
    (∃ p : Program, p.declared = s.program.declared ∧ p.attached = s.program.attached ∧
      t = ⟨p, s.definitions, s.subjects⟩) ∨
    ∃ x a p, s.Calls x a ∧ s.program.attach x a = .ok p ∧ t = ⟨p, s.definitions, s.subjects⟩ := by
  cases next with
  | @recordClass _ bases _ _ d known declared =>
    obtain ⟨program, new⟩ := declareRecord_extends declared
    have key : (Subject.type d.type).key? = some ⟨.inside s.program.declared, d.type.kind⟩ := by
      rw [← new.number]
      rfl
    exact .inl ⟨program, ⟨_, _, rfl, key⟩, .inr ⟨d, bases, rfl, known, new⟩⟩
  | @plainClass _ bases _ _ d known declared =>
    obtain ⟨program, new⟩ := declareClass_extends declared
    have key : (Subject.type d.type).key? = some ⟨.inside s.program.declared, d.type.kind⟩ := by
      rw [← new.number]
      rfl
    exact .inl ⟨program, ⟨_, _, rfl, key⟩, .inr ⟨d, bases, rfl, known, new⟩⟩
  | function declared =>
    cases declared
    exact .inl ⟨extends_next _, ⟨_, .function, rfl, rfl⟩, .inl rfl⟩
  | object _ declared =>
    obtain ⟨program, key⟩ := declareObject_extends declared
    exact .inl ⟨program, ⟨_, _, rfl, key⟩, .inl rfl⟩
  | @member place name x => exact .inr (.inl ⟨s.program.bind place name x, rfl, rfl, rfl⟩)
  | behaves conduct => exact .inr (.inl ⟨{ s.program with conduct := conduct }, rfl, rfl, rfl⟩)
  | attached known target instantiable made accepted =>
    exact .inr (.inr ⟨_, _, _, ⟨known, target, _, instantiable, _, made⟩, accepted, rfl⟩)

theorem Calls.next {x : Subject} {a : Annotation} {p : Program} (calls : s.Calls x a)
    (accepted : s.program.attach x a = .ok p) : s.Next ⟨p, s.definitions, s.subjects⟩ := by
  obtain ⟨known, target, d, instantiable, given, made⟩ := calls
  exact .attached known target instantiable made accepted

end Session

/-! ## Numbers -/

/-- A key is that of a number below another one. -/
def Key.Below (bound : Nat) (k : Key) : Prop := ∃ n < bound, k.place = .inside n

theorem Key.Below.mono {bound more : Nat} {k : Key} (below : k.Below bound) (le : bound ≤ more) :
    k.Below more := by
  obtain ⟨n, lt, here⟩ := below
  exact ⟨n, Nat.lt_of_lt_of_le lt le, here⟩

theorem Class.below_key {c : Class} {bound : Nat} (lt : c.number < bound) : c.key.Below bound :=
  ⟨c.number, lt, rfl⟩

/-- Attaching changes nothing but what is attached. -/
theorem declared_attach {x : Subject} {a : Annotation} (accepted : p.attach x a = .ok q) :
    q.declared = p.declared ∧ q.members = p.members ∧ q.conduct = p.conduct := by
  unfold attach at accepted
  split at accepted
  · cases accepted
  · cases accepted
  · split at accepted
    · cases accepted
    · cases accepted
      exact ⟨rfl, rfl, rfl⟩

theorem Form.type_make {f : Form} {given : Dictionary Value Value} {a : Annotation}
    (made : f.make given = .ok a) : a.type = f.type := by
  simp only [make, bind_eq_ok_iff] at made
  obtain ⟨-, -, -, -, made⟩ := made
  split at made
  · cases made
    rfl
  · simp only [bind_eq_ok_iff] at made
    obtain ⟨_, _, returned⟩ := made
    cases returned
    rfl

namespace Session

variable {s t : Session}

/-- Whatever there is has a number below that of the next declaration. -/
structure Numbered (s : Session) : Prop where
  definitions : ∀ d ∈ s.definitions, d.Lined ∧ ∀ f ∈ d.line, f.type.number < s.program.declared
  carried : ∀ k, ∀ a ∈ s.program.carried k, ∀ l ∈ a.type.line, l.Below s.program.declared
  subjects : ∀ x ∈ s.subjects, ∃ k, x.key? = some k ∧ k.Below s.program.declared
  same : ∀ x ∈ s.subjects, ∀ y ∈ s.subjects, x.key? = y.key? → x = y

theorem numbered_opening (conduct : Conduct) : (opening conduct).Numbered where
  definitions := by
    have lined : ∀ d ∈ builtin, d.type.ancestors = d.ancestors.map (·.type.key) ∧
      ∀ f ∈ d.line, f.type.number < 7 := by decide
    exact lined
  carried := by
    have attached : ∀ e ∈ initialAttached, ∀ a ∈ e.2, ∀ l ∈ a.type.line,
        ∃ n < 7, l.place = .inside n := by
      decide
    intro k a member
    obtain ⟨l, here, holds⟩ := (Program.blank conduct).mem_attached_of_carried member
    exact attached _ here a holds
  subjects := by
    intro x member
    obtain ⟨d, listed, rfl⟩ := List.mem_map.1 member
    have numbers : ∀ d ∈ builtin, d.type.number < 7 := by decide
    exact ⟨d.type.key, rfl, Class.below_key (numbers d listed)⟩
  same := by
    have keys : ∀ d ∈ builtin, ∀ e ∈ builtin, d.type.key = e.type.key → d.type = e.type := by decide
    intro x here y there kept
    obtain ⟨d, listed, rfl⟩ := List.mem_map.1 here
    obtain ⟨e, known, rfl⟩ := List.mem_map.1 there
    exact congrArg Subject.type (keys d listed e known (Option.some.inj kept))

/-- The line of a definition is that of its class. -/
theorem line_of_lined (lined : d.Lined) : d.type.line = d.line.map (·.type.key) := by
  rw [Class.line, lined]
  rfl

theorem Adds.numbered (adds : s.Adds t) (numbered : s.Numbered) : t.Numbered := by
  have later : s.program.declared < t.program.declared := by
    rw [adds.program.declared]
    exact Nat.lt_succ_self _
  obtain ⟨x, kind, subjects, key⟩ := adds.subjects
  have known : ∀ d ∈ s.definitions, d.Lined ∧ ∀ f ∈ d.line, f.type.number < t.program.declared :=
    fun d member => (numbered.definitions d member).imp_right fun below f inLine =>
      Nat.lt_trans (below f inLine) later
  refine ⟨?_, ?_, ?_, ?_⟩
  · rcases adds.definitions with same | ⟨d, bases, new, listed, declared⟩
    · rwa [same]
    · rw [new]
      refine List.forall_mem_cons.2 ⟨⟨declared.lined, List.forall_mem_cons.2 ⟨?_, ?_⟩⟩, known⟩
      · exact declared.number.symm ▸ later
      · intro f ancestor
        obtain ⟨b, base, inLine⟩ := declared.ancestors f ancestor
        exact (known b (listed b base)).2 f inLine
  · rw [carried_congr adds.program.attached]
    exact fun k a member l inLine => (numbered.carried k a member l inLine).mono (Nat.le_of_lt later)
  · rw [subjects]
    refine List.forall_mem_cons.2 ⟨⟨_, key, _, later, rfl⟩, fun y member => ?_⟩
    obtain ⟨k, kept, below⟩ := numbered.subjects y member
    exact ⟨k, kept, below.mono (Nat.le_of_lt later)⟩
  · have new : ∀ y ∈ s.subjects, x.key? ≠ y.key? := by
      intro y member same
      obtain ⟨k, kept, n, below, here⟩ := numbered.subjects y member
      cases key.symm.trans (same.trans kept)
      cases here
      exact Nat.lt_irrefl _ below
    rw [subjects]
    refine List.forall_mem_cons.2 ⟨List.forall_mem_cons.2 ⟨fun _ => rfl, fun y member same => ?_⟩,
      fun y member => List.forall_mem_cons.2 ⟨fun same => ?_, numbered.same y member⟩⟩
    · exact absurd same (new y member)
    · exact absurd same.symm (new y member)

theorem Numbered.next (numbered : s.Numbered) (next : s.Next t) : t.Numbered := by
  rcases next.cases with adds | ⟨p, declared, attached, rfl⟩ | ⟨x, a, p, calls, accepted, rfl⟩
  · exact adds.numbered numbered
  · refine ⟨?_, ?_, ?_, numbered.same⟩
    · exact declared ▸ numbered.definitions
    · rw [carried_congr attached, declared]
      exact numbered.carried
    · exact declared ▸ numbered.subjects
  · obtain ⟨declared, -⟩ := declared_attach accepted
    obtain ⟨d, instantiable, given, made⟩ := calls.made
    obtain ⟨lined, below⟩ := numbered.definitions d instantiable
    have fresh : ∀ l ∈ a.type.line, l.Below s.program.declared := by
      rw [Form.type_make made]
      intro l member
      obtain ⟨f, inLine, rfl⟩ := List.mem_map.1 (line_of_lined lined ▸ member)
      exact Class.below_key (below f inLine)
    refine ⟨?_, fun other => ?_, ?_, numbered.same⟩
    · exact declared ▸ numbered.definitions
    · obtain ⟨k, -, -, carried⟩ := carried_attach accepted
      rw [carried other, declared]
      split
      · exact List.forall_mem_cons.2 ⟨fresh, numbered.carried k⟩
      · exact numbered.carried other
    · exact declared ▸ numbered.subjects

theorem Reached.numbered (reached : s.Reached) : s.Numbered := by
  induction reached with
  | opening conduct => exact numbered_opening conduct
  | step _ next ih => exact ih.next next

end Session

end Hallmark.Program
