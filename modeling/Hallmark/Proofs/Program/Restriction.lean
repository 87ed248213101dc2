/-
# Hallmark.Proofs.Program.Restriction -- restrictions only add up

A kind of subject is admitted for the annotations of a class if every restriction on the class
allows it (`admits_iff`).  Restrictions are attached and never taken off, and what one allows is
decided by what it offers as `allows` and as `kinds`: a class of restrictions may have a function
of its own to allow by, which is asked then.  Declarations and attachments leave that alone, as
members are put into new classes only.  A member that is put into an old class may replace what is
asked, or what reads it, and a function may come to answer otherwise; `Moves` are all the steps but
those by which a restriction in force does so.  Along them whatever is admitted has been admitted
before.

The types that describe types, and metadata, are restricted from the beginning, by restrictions
that are asked for the function of the library and for kinds of their own.  So every move keeps
annotations of such a type on subjects of the kinds that its first restriction allows
(`Session.Guarded`).
-/
import Hallmark.Proofs.Program.Step
import Mathlib.Logic.Relation

namespace Hallmark.Program

set_option autoImplicit false

open Document Relation

variable {p q : Program} {c : Class} {kind : Kind} {a : Annotation}

/-! ## Admission -/

theorem firstObjection_eq_none_iff {l : List Annotation} :
    p.firstObjection c kind l = .ok none ↔ ∀ r ∈ l, p.allows r kind = .ok true := by
  induction l with
  | nil => exact ⟨fun _ => nofun, fun _ => rfl⟩
  | cons r rest ih =>
    rw [firstObjection, bind_eq_ok_iff, List.forall_mem_cons, ← ih]
    constructor
    · rintro ⟨allowed, asked, rest_admits⟩
      cases allowed with
      | true => exact ⟨asked, rest_admits⟩
      | false =>
        -- the objection has been found
        obtain ⟨items, -, named⟩ := bind_eq_ok_iff.1 rest_admits
        obtain ⟨names, -, found⟩ := bind_eq_ok_iff.1 named
        cases found
    · rintro ⟨asked, rest_admits⟩
      exact ⟨true, asked, rest_admits⟩

theorem admits_iff : p.admits c kind = true ↔ ∀ r ∈ p.restrictions c, p.allows r kind = .ok true := by
  rw [← firstObjection_eq_none_iff]
  unfold admits objection?
  split
  · rename_i none_found
    exact ⟨fun _ => none_found, fun _ => rfl⟩
  · rename_i other
    exact ⟨fun fails => (by cases fails), fun none_found => absurd none_found other⟩

/-- What is attached has been admitted. -/
theorem admits_of_attach {x : Subject} (accepted : p.attach x a = .ok q) :
    p.admits a.type x.kind = true := by
  unfold attach at accepted
  split at accepted
  · cases accepted
  · cases accepted
  · rename_i none_found
    rw [admits, none_found]

theorem kind_of_key {x : Subject} {k : Key} (kept : x.key? = some k) : k.kind = x.kind := by
  cases x with
  | type | function | object | module | library =>
    cases kept
    rfl
  | _ => cases kept

/-- A restriction allows the same kinds. -/
def AllowsSame (p q : Program) (r : Annotation) : Prop := ∀ kind, q.allows r kind = p.allows r kind

theorem lineMember?_congr {name : String}
    (same : ∀ k ∈ c.line, q.members.get? (k.place, name) = p.members.get? (k.place, name)) :
    q.lineMember? c name = p.lineMember? c name := by
  unfold lineMember?
  rw [← Class.line]
  generalize c.line = line at same ⊢
  induction line with
  | nil => rfl
  | cons l rest ih =>
    obtain ⟨first, others⟩ := List.forall_mem_cons.1 same
    rw [List.findSome?_cons, List.findSome?_cons, first, ih others]

/-- What is allowed is decided by what is offered, and by the functions that are offered. -/
theorem allowsSame_of_lineMember (conduct : q.conduct = p.conduct)
    (same : ∀ name, q.lineMember? a.type name = p.lineMember? a.type name) : AllowsSame p q a := by
  intro kind
  have offered : ∀ name, q.offered? a name = p.offered? a name := by
    intro name
    rw [offered?, offered?, same]
  have kinds : q.kindsOf a = p.kindsOf a := by
    rw [kindsOf, kindsOf, offered]
  rw [allows, allows, offered, kinds, conduct]

theorem mem_restrictions_iff : a ∈ p.restrictions c ↔ a ∈ p.carried c.key ∧ a.type.isA .target = true :=
  List.mem_filter

theorem mem_carried_attach {x : Subject} {b : Annotation} {k : Key}
    (accepted : p.attach x a = .ok q) (member : b ∈ p.carried k) : b ∈ q.carried k := by
  obtain ⟨l, -, -, carried⟩ := carried_attach accepted
  rw [carried k]
  split
  · rename_i here
    exact List.mem_cons_of_mem _ (here ▸ member)
  · exact member

/-! ## Steps that keep restrictions as they are -/

namespace Session

/-- The steps by which no restriction in force comes to allow other kinds: every declaration and
every attachment, and of the others those that leave these restrictions alone. -/
inductive Moves (s : Session) : Session → Prop where
  | declares {t : Session} (next : s.Next t) (more : s.program.declared < t.program.declared) :
    Moves s t
  | attaches {x : Subject} {a : Annotation} {p : Program} (calls : s.Calls x a)
    (accepted : s.program.attach x a = .ok p) : Moves s ⟨p, s.definitions, s.subjects⟩
  | places {place : Place} {name : String} {x : Subject} (known : s.Knows x)
    (plain : name ∉ attributeHooks)
    (same : ∀ c, ∀ r ∈ s.program.restrictions c, AllowsSame s.program (s.program.bind place name x) r) :
    Moves s ⟨s.program.bind place name x, s.definitions, s.subjects⟩
  | behaves {conduct : Conduct}
    (same : ∀ c, ∀ r ∈ s.program.restrictions c,
      AllowsSame s.program { s.program with conduct := conduct } r) :
    Moves s ⟨{ s.program with conduct := conduct }, s.definitions, s.subjects⟩

variable {s t : Session}

theorem Moves.next (moves : s.Moves t) : s.Next t := by
  cases moves with
  | declares next => exact next
  | attaches calls accepted => exact calls.next accepted
  | places known => exact .member known
  | behaves => exact .behaves _

theorem Next.adds_of_more (next : s.Next t) (more : s.program.declared < t.program.declared) :
    s.Adds t := by
  rcases next.cases with adds | ⟨_, same, -, rfl⟩ | ⟨_, _, p, -, accepted, rfl⟩
  · exact adds
  · exact absurd more (Nat.not_lt.2 (Nat.le_of_eq same))
  · rw [(declared_attach accepted).1] at more
    exact absurd more (Nat.lt_irrefl _)

/-- Nothing is put into the classes of what is carried already. -/
theorem Numbered.lineMember_eq (numbered : s.Numbered) (extended : Extends s.program q) {k : Key}
    (carried : a ∈ s.program.carried k) (name : String) :
    q.lineMember? a.type name = s.program.lineMember? a.type name := by
  refine lineMember?_congr fun l inLine => ?_
  obtain ⟨n, old, here⟩ := numbered.carried k a carried l inLine
  rw [here, extended.members n (Nat.ne_of_lt old)]

/-- A move takes no restriction off, and each allows the same. -/
theorem Moves.keeps (moves : s.Moves t) (numbered : s.Numbered) :
    ∀ c, ∀ r ∈ s.program.restrictions c,
      r ∈ t.program.restrictions c ∧ AllowsSame s.program t.program r := by
  intro c r restricts
  obtain ⟨carried, restriction⟩ := mem_restrictions_iff.1 restricts
  cases moves with
  | declares next more =>
    have extended := (next.adds_of_more more).program
    refine ⟨mem_restrictions_iff.2 ⟨?_, restriction⟩, ?_⟩
    · rwa [carried_congr extended.attached]
    · exact allowsSame_of_lineMember extended.conduct (numbered.lineMember_eq extended carried)
  | attaches calls accepted =>
    obtain ⟨-, members, conduct⟩ := declared_attach accepted
    refine ⟨mem_restrictions_iff.2 ⟨mem_carried_attach accepted carried, restriction⟩, ?_⟩
    refine allowsSame_of_lineMember conduct fun name => ?_
    rw [lineMember?, lineMember?, members]
  | places known plain same => exact ⟨restricts, same c r restricts⟩
  | behaves same => exact ⟨restricts, same c r restricts⟩

/-! ## Restrictions from the beginning -/

/-- Whether a restriction to some kinds allows a kind. -/
def Within (kinds : List Kind) (kind : Kind) : Prop :=
  kind ∈ kinds ∨ kind = .annotationType ∧ .type ∈ kinds

theorem isA_target : Class.target.isA .target = true := by decide

/-- Annotations of a class stand only where a restriction on the class allows them. -/
structure Guarded (c : Class) (kinds : List Kind) (s : Session) : Prop where
  restricted : .restriction kinds ∈ s.program.carried c.key
  allowed : ∀ kind, s.program.allows (.restriction kinds) kind = .ok true → Within kinds kind
  within : ∀ k, ∀ a ∈ s.program.carried k, a.type = c → Within kinds k.kind

theorem Guarded.restricts {kinds : List Kind} (guarded : Guarded c kinds s) :
    .restriction kinds ∈ s.program.restrictions c :=
  mem_restrictions_iff.2 ⟨guarded.restricted, isA_target⟩

theorem Guarded.moves {kinds : List Kind} (guarded : Guarded c kinds s) (numbered : s.Numbered)
    (moves : s.Moves t) : Guarded c kinds t := by
  obtain ⟨kept, same⟩ := moves.keeps numbered c _ guarded.restricts
  refine ⟨(mem_restrictions_iff.1 kept).1, fun kind asked => ?_, ?_⟩
  · exact guarded.allowed kind ((same kind).symm.trans asked)
  cases moves with
  | declares next more =>
    rw [carried_congr (next.adds_of_more more).program.attached]
    exact guarded.within
  | @attaches x a _ calls accepted =>
    intro other
    obtain ⟨k, -, key, carried⟩ := carried_attach accepted
    rw [carried other]
    split
    · rename_i here
      subst here
      refine List.forall_mem_cons.2 ⟨?_, guarded.within _⟩
      rintro rfl
      rw [kind_of_key key]
      exact guarded.allowed _ (admits_iff.1 (admits_of_attach accepted) _ guarded.restricts)
    · exact guarded.within other
  | places => exact guarded.within
  | behaves => exact guarded.within

theorem Reached.moves (reached : s.Reached) (moves : ReflTransGen Moves s t) : t.Reached := by
  induction moves with
  | refl => exact reached
  | tail _ last ih => exact ih.step last.next

end Session

/-! ## A restriction that allows by a function of its own

A class of restrictions with a function in the place of `allows`, which allows functions alone;
and metadata restricted by one of them. -/

namespace Strict

open Session

def conduct : Conduct :=
  { Conduct.silent with allows := fun _ _ kind => .ok (decide (kind = .function)) }

def type : Class where
  number := 7
  name := "Strict"
  path := "Strict"
  home := "app"
  ancestors := [Class.target.key, Class.base.key]
  hasRoom := true
  appearance := .call
  isFixed := false

def ancestors : List Form := [Definition.target.form, Definition.base.form]

def definition : Definition :=
  ⟨⟨type, true, some [(.text "kinds", everyKind)], some .kinds⟩, ancestors⟩

def function : Subject := .function 8 "allows"

/-- What declaring the class leads to. -/
def program : Program :=
  (("__annotations__", Subject.feature .mapping (.type type)) :: recordFeatures (.type type)
      ++ watching type).foldl (fun q e => q.bind (.inside 7) e.1 e.2) (Program.blank conduct).next

def classed : Session :=
  ⟨program, definition :: builtin, .type type :: (opening conduct).subjects⟩

def functional : Session :=
  ⟨program.next, classed.definitions, function :: classed.subjects⟩

def placed : Session :=
  { functional with program := functional.program.bind (.inside 7) "allows" function }

def session : Session :=
  { placed with program := { placed.program with
      attached := initialAttached.put Class.metadata.key
        [⟨type, [(.text "kinds", everyKind)]⟩, .documented, .restriction [.type, .function]] } }

theorem ancestorsOf_eq : ancestorsOf "Strict" [.target] = .ok ancestors := by
  have merged : mergeOrders [[Class.target, Class.base], [Class.target]] =
      some [Class.target, Class.base] := by
    rw [mergeOrders_of_free (a := Class.target) (by decide),
      mergeOrders_of_free (a := Class.base) (by decide), mergeOrders_of_empty (by decide)]
    rfl
  have orders : ([Definition.target].map fun d => d.line.map (·.type)) ++
      [[Definition.target].map Definition.type] = [[Class.target, Class.base], [Class.target]] := rfl
  simp only [ancestorsOf, orders, merged]
  rfl

theorem declareRecord_eq :
    (Program.blank conduct).declareRecord ⟨"Strict", "Strict", "app"⟩ [.target] [] =
      .ok (program, definition) := by
  simp only [declareRecord, ancestorsOf_eq]
  rfl

end Strict

end Hallmark.Program
