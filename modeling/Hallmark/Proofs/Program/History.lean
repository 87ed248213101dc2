/-
# Hallmark.Proofs.Program.History -- what is attached, told from what was done

A run of a session is told by its history: the attachments that were accepted, the latest first.
A declaration adds nothing to it, and neither does a refused call, after which the session is
what it was before.

Under each key the history is what the key holds in front of what it held at first, and the
subjects that a session knows have keys of their own.  So what is declared on a subject is what the
history records for this subject itself, in front of what was declared on it before anything
happened (`Session.Runs.declaredOn_eq`); subclasses, instances and classes of it have other keys.
Runs declare nothing under the name under which annotations are kept, which would be read as if
it had been attached, and replace nothing by which attributes are set and read.

A function as a member of an object is no subject of its own: nothing can be attached to it,
and it shows what is declared on the function.
-/
import Hallmark.Program.Import
import Hallmark.Proofs.Program.Step
import Mathlib.Logic.Basic

namespace Hallmark.Program

set_option autoImplicit false

/-- Whether a subject is a function as a member of something. -/
def Subject.isMethod : Subject → Bool
  | .method _ _ => true
  | _ => false

section Declared

variable (p : Program) {x : Subject}

theorem declaredOn_of_namespace {k : Key} (shown : x.namespace? = some k) :
    p.declaredOn x = p.carried k := by
  rw [declaredOn, shown]
  rfl

theorem declaredOn_of_namespace_none (bare : x.namespace? = none) : p.declaredOn x = [] := by
  rw [declaredOn, bare]
  rfl

/-- A namespace is kept under the key of its subject, unless it is seen through a member. -/
theorem key?_of_namespace {k : Key} (shown : x.namespace? = some k) (ordinary : x.isMethod = false) :
    x.key? = some k := by
  cases x with
  | type | function | module | library => exact shown
  | object number d =>
    unfold Subject.namespace? at shown
    split at shown
    · exact shown
    · cases shown
  | method => cases ordinary
  | _ => cases shown

theorem not_isMethod_of_key {k : Key} (kept : x.key? = some k) : x.isMethod = false := by
  cases x with
  | method => cases kept
  | _ => rfl

end Declared

/-! ## Runs -/

/-- An annotation with the subject that it was attached to. -/
structure Attachment where
  subject : Subject
  attached : Annotation

open Classical in
/-- The annotations that a history records for a subject, the latest first. -/
noncomputable def recorded (past : List Attachment) (x : Subject) : List Annotation :=
  (past.filter (·.subject = x)).map (·.attached)

namespace Session

/-- Whether a member of a place is a function that a class has of its own, as it is a record. -/
def ownsFunction (place : Place) : Subject → Bool
  | .feature .function (.type c) => place = c.key.place
  | _ => false

/-- What sets and reads attributes, and the name under which annotations are kept, are left alone by
members and by fields. -/
structure Spares (s : Session) : Prop where
  members : ∀ e ∈ s.program.members, e.1.2 ∈ attributeHooks → ownsFunction e.1.1 e.2 = true
  fields : ∀ d ∈ s.definitions, ∀ hook ∈ attributeHooks,
    (d.form.fields.getD []).get? (.text hook) = none

/-- The sessions that are come to, each with the history of how. -/
inductive Runs : List Attachment → Session → Prop where
  | opening (conduct : Conduct) : Runs [] (opening conduct)
  | declares {past : List Attachment} {s t : Session} (runs : Runs past s) (next : s.Next t)
    (spares : t.Spares) (apart : ∀ x a, s.Calls x a → s.program.attach x a ≠ .ok t.program) :
    Runs past t
  | attaches {past : List Attachment} {s : Session} {x : Subject} {a : Annotation} {p : Program}
    (runs : Runs past s) (calls : s.Calls x a) (accepted : s.program.attach x a = .ok p) :
    Runs (⟨x, a⟩ :: past) ⟨p, s.definitions, s.subjects⟩
  | refuses {past : List Attachment} {s : Session} {x : Subject} {a : Annotation}
    {e : Failure AttachError} (runs : Runs past s) (calls : s.Calls x a)
    (refused : s.program.attach x a = .error e) : Runs past s

variable {past : List Attachment} {s t : Session}

theorem Runs.reached (runs : Runs past s) : s.Reached := by
  induction runs with
  | opening conduct => exact .opening conduct
  | declares _ next _ _ ih => exact ih.step next
  | attaches _ calls accepted ih => exact ih.step (calls.next accepted)
  | refuses _ _ _ ih => exact ih

/-- An attachment is not nothing: a key holds one annotation more. -/
theorem attach_ne_of_kept {p q : Program} {x : Subject} {a : Annotation}
    (kept : q.attached = p.attached) : p.attach x a ≠ .ok q := by
  intro accepted
  obtain ⟨k, -, -, carried⟩ := carried_attach accepted
  have more : p.carried k = a :: p.carried k := by
    simpa [carried_congr kept] using carried k
  exact List.cons_ne_self _ _ more.symm

theorem Runs.keeps (runs : Runs past s) (next : s.Next t) (spares : t.Spares)
    (kept : t.program.attached = s.program.attached) : Runs past t :=
  runs.declares next spares fun _ _ _ => attach_ne_of_kept kept

theorem Runs.places (runs : Runs past s) {x : Subject} (known : s.Knows x) {place : Place}
    {name : String} (spares : Spares ⟨s.program.bind place name x, s.definitions, s.subjects⟩) :
    Runs past ⟨s.program.bind place name x, s.definitions, s.subjects⟩ :=
  runs.keeps (.member known) spares rfl

/-- A step that is no attachment leaves what is attached alone. -/
theorem Next.attached_eq (next : s.Next t)
    (apart : ∀ x a, s.Calls x a → s.program.attach x a ≠ .ok t.program) :
    t.program.attached = s.program.attached := by
  rcases next.cases with adds | ⟨_, -, attached, rfl⟩ | ⟨x, a, p, calls, accepted, rfl⟩
  · exact adds.program.attached
  · exact attached
  · exact absurd accepted (apart x a calls)

/-- What a key holds is what the history records under it, in front of what it held at first. -/
theorem Runs.carried_eq (runs : Runs past s) (k : Key) : s.program.carried k =
    (past.filter (·.subject.key? = some k)).map (·.attached) ++ Program.initial.carried k := by
  induction runs with
  | opening => rfl
  | declares _ next _ apart ih => rw [carried_congr (next.attached_eq apart), ih]
  | attaches _ _ accepted ih =>
    obtain ⟨l, -, kept, carried⟩ := carried_attach accepted
    rw [carried k, ih]
    by_cases here : k = l
    · subst here
      simp [kept, ih]
    · have elsewhere : l ≠ k := fun same => here same.symm
      simp [kept, here, elsewhere]
  | refuses _ _ _ ih => exact ih

/-- What has a name is found elsewhere than what has been declared. -/
theorem place_of_isNamed {x : Subject} {k : Key} (named : x.isNamed = true)
    (kept : x.key? = some k) (n : Nat) : k.place ≠ .inside n := by
  cases x with
  | module | library =>
    cases kept
    exact nofun
  | _ => cases named

theorem eq_of_isNamed {x y : Subject} {k : Key} (named : x.isNamed = true)
    (also : y.isNamed = true) (kept : x.key? = some k) (same : y.key? = some k) : x = y := by
  cases x with
  | module =>
    cases y with
    | module =>
      cases kept
      cases same
      rfl
    | library =>
      cases kept
      cases same
    | _ => cases also
  | library home name isClass =>
    cases y with
    | module =>
      cases same
      cases kept
    | library _ _ other =>
      cases kept
      cases isClass <;> cases other <;> cases same
      all_goals rfl
    | _ => cases also
  | _ => cases named

/-- The subjects that are known have keys of their own. -/
theorem Numbered.eq_of_key (numbered : s.Numbered) {x y : Subject} {k : Key} (known : s.Knows x)
    (also : s.Knows y) (kept : x.key? = some k) (same : y.key? = some k) : x = y := by
  have declared : ∀ z ∈ s.subjects, z.key? = some k → ∃ n, k.place = .inside n := by
    intro z member held
    obtain ⟨l, key, n, -, here⟩ := numbered.subjects z member
    exact ⟨n, Option.some.inj (held.symm.trans key) ▸ here⟩
  rcases known with keyless | named | member
  · cases keyless.symm.trans kept
  · rcases also with keyless | also | member
    · cases keyless.symm.trans same
    · exact eq_of_isNamed named also kept same
    · obtain ⟨n, here⟩ := declared y member same
      exact absurd here (place_of_isNamed named kept n)
  · rcases also with keyless | named | also
    · cases keyless.symm.trans same
    · obtain ⟨n, here⟩ := declared x member kept
      exact absurd here (place_of_isNamed named same n)
    · exact numbered.same x member y also (kept.trans same.symm)

/-- What a step knows of was known before, or is new. -/
theorem Next.subjects_subset (next : s.Next t) : s.subjects ⊆ t.subjects := by
  rcases next.cases with adds | ⟨_, -, -, rfl⟩ | ⟨_, _, _, -, -, rfl⟩
  · obtain ⟨x, _, subjects, -⟩ := adds.subjects
    exact subjects ▸ List.subset_cons_self x s.subjects
  · exact List.Subset.refl _
  · exact List.Subset.refl _

theorem Next.knows (next : s.Next t) {x : Subject} (known : s.Knows x) : t.Knows x :=
  known.imp_right (.imp_right fun member => next.subjects_subset member)

/-- What has been annotated is known, and its annotations are read where they were written. -/
theorem Runs.subject_known (runs : Runs past s) : ∀ e ∈ past, s.Knows e.subject ∧
    ∃ k, e.subject.namespace? = some k ∧ e.subject.key? = some k := by
  induction runs with
  | opening => nofun
  | declares _ next _ _ ih => exact fun e member => (ih e member).imp_left next.knows
  | attaches _ calls accepted ih =>
    obtain ⟨k, shown, kept, -⟩ := carried_attach accepted
    exact List.forall_mem_cons.2 ⟨⟨calls.known, k, shown, kept⟩, ih⟩
  | refuses _ _ _ ih => exact ih

/-- A history tells subjects apart by their keys. -/
theorem Runs.recorded_eq (runs : Runs past s) {x : Subject} {k : Key} (known : s.Knows x)
    (kept : x.key? = some k) :
    recorded past x = (past.filter (·.subject.key? = some k)).map (·.attached) := by
  have tells : ∀ e ∈ past, (e.subject = x) ↔ e.subject.key? = some k := by
    intro e listed
    refine ⟨fun same => same ▸ kept, fun same => ?_⟩
    exact runs.reached.numbered.eq_of_key (runs.subject_known e listed).1 known same kept
  unfold recorded
  rw [List.filter_congr fun e listed => decide_eq_decide.2 (tells e listed)]

theorem Runs.recorded_eq_nil (runs : Runs past s) {x : Subject} (bare : x.namespace? = none) :
    recorded past x = [] := by
  have other : ∀ e ∈ past, e.subject ≠ x := by
    rintro e listed rfl
    obtain ⟨-, k, shown, -⟩ := runs.subject_known e listed
    cases bare.symm.trans shown
  simpa [recorded, List.filter_eq_nil_iff] using other

theorem Runs.declaredOn_known (runs : Runs past s) {x : Subject} (known : s.Knows x)
    (ordinary : x.isMethod = false) :
    s.program.declaredOn x = recorded past x ++ Program.initial.declaredOn x := by
  cases shown : x.namespace? with
  | none =>
    rw [declaredOn_of_namespace_none _ shown, declaredOn_of_namespace_none _ shown,
      runs.recorded_eq_nil shown]
    rfl
  | some k =>
    rw [declaredOn_of_namespace _ shown, declaredOn_of_namespace _ shown, runs.carried_eq,
      runs.recorded_eq known (key?_of_namespace shown ordinary)]

/-- An accepted call is recorded first. -/
theorem recorded_cons (past : List Attachment) (x : Subject) (a : Annotation) :
    recorded (⟨x, a⟩ :: past) x = a :: recorded past x := by
  simp [recorded]

theorem recorded_cons_of_ne {x y : Subject} (ne : y ≠ x) (past : List Attachment) (a : Annotation) :
    recorded (⟨x, a⟩ :: past) y = recorded past y := by
  simp [recorded, Ne.symm ne]

/-- **What is declared on a subject is what was attached to it, the latest first.**  An accepted
call puts its annotation in front on one subject and changes no other.  Nothing is attached to a
function as a member of something, which shows what is declared on the function. -/
theorem Runs.declaredOn_eq (runs : Runs past s) :
    (∀ x, s.Knows x → x.isMethod = false →
      s.program.declaredOn x = recorded past x ++ Program.initial.declaredOn x) ∧
    (∀ x a p, s.Calls x a → s.program.attach x a = .ok p → x.isMethod = false ∧
      p.declaredOn x = a :: s.program.declaredOn x ∧
      ∀ y, s.Knows y → y.isMethod = false → y ≠ x → p.declaredOn y = s.program.declaredOn y) ∧
    ∀ callee owner, s.Knows callee → callee.isMethod = false →
      s.program.declaredOn (.method callee owner) =
        recorded past callee ++ Program.initial.declaredOn callee := by
  refine ⟨fun x => runs.declaredOn_known, fun x a p calls accepted => ?_, ?_⟩
  · have after := runs.attaches calls accepted
    obtain ⟨k, -, kept, -⟩ := carried_attach accepted
    have ordinary := not_isMethod_of_key kept
    refine ⟨ordinary, ?_, fun y known plain ne => ?_⟩
    · rw [after.declaredOn_known calls.known ordinary, runs.declaredOn_known calls.known ordinary,
        recorded_cons]
      rfl
    · rw [after.declaredOn_known known plain, runs.declaredOn_known known plain,
        recorded_cons_of_ne ne]
  · exact fun callee owner known ordinary => runs.declaredOn_known known ordinary

end Session

/-! ## A function as a member of an object

A class with a function in it, an object of the class, and metadata on the function. -/

namespace Bound

open Session

def type : Class where
  number := 7
  name := "C"
  path := "C"
  home := "app"
  ancestors := []
  hasRoom := true
  appearance := .call
  isFixed := false

def definition : Definition := ⟨⟨type, false, none, none⟩, []⟩

def function : Subject := .function 8 "f"

def object : Subject := .object 9 definition [] "<object o>"

def metadata : Annotation :=
  ⟨.metadata, [(.text "kind", .text "Handler"), (.text "properties", .tuple [])]⟩

/-- What declaring the class leads to. -/
def program : Program :=
  (initial.next.bind (.inside 7) "__doc__" (.value .none)).bind (.inside 7) "__weakref__"
    (.feature .slot (.type type))

def classed : Session :=
  ⟨program, definition :: builtin, .type type :: Session.initial.subjects⟩

def functional : Session :=
  ⟨program.next, classed.definitions, function :: classed.subjects⟩

def placed : Session := { functional with program := functional.program.bind (.inside 7) "f" function }

def inhabited : Session :=
  ⟨placed.program.next, placed.definitions, object :: placed.subjects⟩

def declared : Session :=
  { inhabited with program := inhabited.program.bind (.module "app") "o" object }

def session : Session :=
  { declared with program := { declared.program with
      attached := declared.program.attached.put ⟨.inside 8, .function⟩ [metadata] } }

theorem declareClass_eq :
    initial.declareClass ⟨"C", "C", "app"⟩ [] false = .ok (program, definition) := by
  have merged : mergeOrders ([[]] : List (List Class)) = some [] := by
    unfold mergeOrders
    rfl
  have ordered : ancestorsOf "C" [] = .ok [] := by
    simp only [ancestorsOf, distinct, List.map_nil, List.nil_append, merged]
    rfl
  simp only [declareClass, ordered]
  rfl

theorem declareObject_eq :
    placed.program.declareObject definition [] (some "o") = .ok (placed.program.next, object) := by
  have made : definition.form.make [] = .ok ⟨type, []⟩ := rfl
  have shown : "<object " ++ "o" ++ ">" = "<object o>" := rfl
  simp only [declareObject, made, shown]
  rfl

theorem spares_declared : classed.Spares ∧ functional.Spares ∧ placed.Spares ∧ inhabited.Spares ∧
    declared.Spares := by
  have members : ∀ e ∈ program.members, e.1.2 ∈ attributeHooks →
      ownsFunction e.1.1 e.2 = true := by decide
  have fields : ∀ d ∈ definition :: builtin, ∀ hook ∈ attributeHooks,
      (d.form.fields.getD []).get? (.text hook) = none := by decide
  exact ⟨⟨members, fields⟩, ⟨members, fields⟩, ⟨by decide, fields⟩, ⟨by decide, fields⟩,
    ⟨by decide, fields⟩⟩

theorem runs_declared : Runs [] declared := by
  have class_declared : Session.initial.Next classed :=
    .plainClass (fun _ base => absurd base List.not_mem_nil) declareClass_eq
  have function_declared : classed.Next functional :=
    .function (show program.declareFunction "f" = (program.next, function) from rfl)
  have object_declared : placed.Next inhabited := .object List.mem_cons_self declareObject_eq
  have function_known : functional.Knows function := .inr (.inr List.mem_cons_self)
  have object_known : inhabited.Knows object := .inr (.inr List.mem_cons_self)
  obtain ⟨first, second, third, fourth, last⟩ := spares_declared
  have runs_functional : Runs [] functional :=
    ((Runs.opening .silent).keeps class_declared first rfl).keeps function_declared second
      (extends_next _).attached
  have runs_placed : Runs [] placed := runs_functional.places function_known third
  have runs_inhabited : Runs [] inhabited :=
    runs_placed.keeps object_declared fourth (extends_next _).attached
  exact runs_inhabited.places object_known last

theorem calls_metadata : declared.Calls function metadata where
  known := .inr (.inr (by simp [declared, inhabited, placed, functional]))
  target := rfl
  made := ⟨.metadata, by simp [declared, inhabited, placed, functional, classed, builtin],
    [(.text "kind", .text "Handler")], rfl⟩

theorem runs_session : Runs [⟨function, metadata⟩] session :=
  runs_declared.attaches calls_metadata rfl

/-- The function of the object shows metadata that was not attached to it. -/
theorem method_shows_function :
    Runs [⟨function, metadata⟩] session ∧
    session.program.find "app:o.f" = .ok (.method function object) ∧
    session.program.declaredOn (.method function object) = [metadata] ∧
    recorded [⟨function, metadata⟩] (.method function object) ++
      Program.initial.declaredOn (.method function object) = [] := by
  refine ⟨runs_session, rfl, rfl, ?_⟩
  simp [recorded, function]
  rfl

/-- Neither the class nor the object shows what is attached to the function. -/
theorem declaredOn_session :
    Runs [⟨function, metadata⟩] session ∧
    session.program.declaredOn function = [metadata] ∧
    session.program.declaredOn (.type type) = [] ∧
    session.program.declaredOn object = [] := by
  obtain ⟨told, -, -⟩ := runs_session.declaredOn_eq
  have known : session.subjects = object :: function :: .type type :: Session.initial.subjects := rfl
  refine ⟨runs_session, ?_, ?_, ?_⟩
  · rw [told function (.inr (.inr (by simp [known]))) rfl, recorded_cons]
    rfl
  · rw [told (.type type) (.inr (.inr (by simp [known]))) rfl]
    simp [recorded, function]
    rfl
  · rw [told object (.inr (.inr (by simp [known]))) rfl]
    simp [recorded, function, object]
    rfl

end Bound

end Hallmark.Program
