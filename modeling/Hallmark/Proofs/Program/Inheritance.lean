/-
# Hallmark.Proofs.Program.Inheritance -- which annotations a class inherits

What the classes above a class carry is offered to it, the nearest first.  It inherits the
annotations whose type is marked as inherited, is no type of an annotation of its own, and has
not been offered before (`inheritable`).  A loop that remembers the types it has come to finds
the same ones (`inheritFrom_eq`): it need not remember types that are not marked.

The line of a class holds the line of every class in it (`Session.Lineal`), as merging orders
keeps each of them.  So a marked type that is present on a class is present on every class below
it, even where the annotation itself gives way to one that is nearer
(`Session.Reached.present_eq`).
-/
import Hallmark.Proofs.Program.Step

namespace Hallmark.Program

set_option autoImplicit false

open Document

/-! ## What is inherited -/

section Inherited

variable (p : Program)

/-- Whether the mark of inheritance is attached to a class itself. -/
def Marked (c : Class) : Prop := ∃ m ∈ p.declaredOn (.type c), m.type.isA .inherited = true

instance (c : Class) : Decidable (p.Marked c) :=
  inferInstanceAs (Decidable (∃ m ∈ p.declaredOn (.type c), m.type.isA .inherited = true))

/-- What it takes for the annotation at a place to be inherited. -/
structure InheritedAt (own offered : List Annotation) (a : Annotation) (place : Nat) : Prop where
  marked : p.Marked a.type
  unhidden : ∀ b ∈ own, b.type ≠ a.type
  first : ∀ b ∈ offered.take place, b.type ≠ a.type

instance (own offered : List Annotation) (a : Annotation) (place : Nat) :
    Decidable (p.InheritedAt own offered a place) :=
  decidable_of_iff (p.Marked a.type ∧ (∀ b ∈ own, b.type ≠ a.type) ∧
    ∀ b ∈ offered.take place, b.type ≠ a.type)
    ⟨fun ⟨marked, unhidden, first⟩ => ⟨marked, unhidden, first⟩,
      fun ⟨marked, unhidden, first⟩ => ⟨marked, unhidden, first⟩⟩

/-- The annotations of those offered that are inherited, in the same order. -/
def inheritable (own offered : List Annotation) : List Annotation :=
  (offered.zipIdx.filter fun e => p.InheritedAt own offered e.1 e.2).map (·.1)

variable {p} {seen : List Class} {own before offered : List Annotation} {a : Annotation}

theorem isInherited_iff {c : Class} : p.isInherited c = true ↔ p.Marked c := List.any_eq_true

theorem inheritFrom_cons (seen : List Class) (a : Annotation) (rest : List Annotation) :
    p.inheritFrom seen (a :: rest) =
      if p.Marked a.type ∧ a.type ∉ seen then a :: p.inheritFrom (a.type :: seen) rest
      else p.inheritFrom seen rest := by
  rw [inheritFrom]
  by_cases marked : p.Marked a.type
  · have inherited : p.isInherited a.type = true := isInherited_iff.2 marked
    by_cases known : a.type ∈ seen
    · simp [known]
    · simp [known, marked, inherited]
  · have plain : p.isInherited a.type = false := by
      rw [← Bool.not_eq_true, isInherited_iff]
      exact marked
    simp [marked, plain]

theorem inheritedAt_length (own before rest : List Annotation) (a : Annotation) :
    p.InheritedAt own (before ++ rest) a before.length ↔
      p.Marked a.type ∧ a.type ∉ (own ++ before).map (·.type) := by
  have absent : ∀ l : List Annotation, (∀ b ∈ l, b.type ≠ a.type) ↔ a.type ∉ l.map (·.type) := by
    intro l
    simp
  rw [List.map_append, List.mem_append, not_or, ← absent, ← absent]
  constructor
  · rintro ⟨marked, unhidden, first⟩
    rw [List.take_left] at first
    exact ⟨marked, unhidden, first⟩
  · rintro ⟨marked, unhidden, first⟩
    refine ⟨marked, unhidden, ?_⟩
    rwa [List.take_left]

/-- Of the types that were offered before, only marked ones have to be remembered. -/
theorem inheritFrom_behind {rest : List Annotation}
    (remembered : ∀ t, p.Marked t → (t ∈ seen ↔ t ∈ (own ++ before).map (·.type))) :
    p.inheritFrom seen rest =
      ((rest.zipIdx before.length).filter fun e =>
        p.InheritedAt own (before ++ rest) e.1 e.2).map (·.1) := by
  induction rest generalizing seen before with
  | nil => rfl
  | cons a rest ih =>
    have further : before ++ a :: rest = (before ++ [a]) ++ rest := by simp
    have length : before.length + 1 = (before ++ [a]).length := by simp
    have added : (own ++ (before ++ [a])).map (·.type) = (own ++ before).map (·.type) ++ [a.type] := by
      simp
    rw [inheritFrom_cons, List.zipIdx_cons, List.filter_cons]
    by_cases taken : p.Marked a.type ∧ a.type ∉ seen
    · have here : p.InheritedAt own (before ++ a :: rest) a before.length := by
        rw [inheritedAt_length, ← remembered a.type taken.1]
        exact taken
      have remembered' : ∀ t, p.Marked t →
          (t ∈ a.type :: seen ↔ t ∈ (own ++ (before ++ [a])).map (·.type)) := by
        intro t marked
        rw [added, List.mem_cons, List.mem_append, List.mem_singleton, remembered t marked, or_comm]
      rw [if_pos taken, ih remembered', if_pos (decide_eq_true here), List.map_cons, further, length]
    · have elsewhere : ¬ p.InheritedAt own (before ++ a :: rest) a before.length := by
        rw [inheritedAt_length]
        rintro ⟨marked, fresh⟩
        exact taken ⟨marked, mt (remembered a.type marked).1 fresh⟩
      have remembered' : ∀ t, p.Marked t →
          (t ∈ seen ↔ t ∈ (own ++ (before ++ [a])).map (·.type)) := by
        intro t marked
        rw [added, List.mem_append, List.mem_singleton, ← remembered t marked]
        refine ⟨.inl, ?_⟩
        rintro (known | rfl)
        · exact known
        · exact Decidable.byContradiction fun fresh => taken ⟨marked, fresh⟩
      rw [if_neg taken, ih remembered', if_neg (mt of_decide_eq_true elsewhere), further, length]

theorem inheritFrom_eq (own offered : List Annotation) :
    p.inheritFrom (own.map (·.type)) offered = p.inheritable own offered := by
  have remembered : ∀ t, p.Marked t →
      (t ∈ own.map Annotation.type ↔ t ∈ (own ++ []).map Annotation.type) := by simp
  exact inheritFrom_behind remembered

/-- What is inherited is marked, of a type not known before, and the first of its type. -/
theorem of_mem_inheritFrom (member : a ∈ p.inheritFrom seen offered) :
    p.Marked a.type ∧ a.type ∉ seen ∧ offered.find? (·.type = a.type) = some a := by
  induction offered generalizing seen with
  | nil => cases member
  | cons b rest ih =>
    rw [inheritFrom_cons] at member
    split at member
    · rename_i taken
      rcases List.mem_cons.1 member with rfl | later
      · exact ⟨taken.1, taken.2, List.find?_cons_of_pos (by simp)⟩
      · obtain ⟨marked, fresh, found⟩ := ih later
        rw [List.mem_cons, not_or] at fresh
        refine ⟨marked, fresh.2, ?_⟩
        rwa [List.find?_cons_of_neg (by simpa using Ne.symm fresh.1)]
    · rename_i skipped
      obtain ⟨marked, fresh, found⟩ := ih member
      have other : b.type ≠ a.type := by
        intro same
        rw [same] at skipped
        exact skipped ⟨marked, fresh⟩
      refine ⟨marked, fresh, ?_⟩
      rwa [List.find?_cons_of_neg (by simpa using other)]

theorem nodup_inheritFrom (seen : List Class) (offered : List Annotation) :
    ((p.inheritFrom seen offered).map (·.type)).Nodup := by
  induction offered generalizing seen with
  | nil => exact List.nodup_nil
  | cons a rest ih =>
    rw [inheritFrom_cons]
    split
    · rw [List.map_cons, List.nodup_cons]
      refine ⟨fun again => ?_, ih _⟩
      obtain ⟨b, later, same⟩ := List.mem_map.1 again
      have fresh := (of_mem_inheritFrom later).2.1
      exact fresh (same ▸ List.mem_cons_self)
    · exact ih seen

/-- A marked type that is offered is known before or inherited. -/
theorem exists_inheritFrom (member : a ∈ offered) (marked : p.Marked a.type) :
    a.type ∈ seen ∨ ∃ b ∈ p.inheritFrom seen offered, b.type = a.type := by
  induction offered generalizing seen with
  | nil => cases member
  | cons b rest ih =>
    rw [inheritFrom_cons]
    by_cases taken : p.Marked b.type ∧ b.type ∉ seen
    · rw [if_pos taken]
      rcases List.mem_cons.1 member with rfl | later
      · exact .inr ⟨a, List.mem_cons_self, rfl⟩
      · rcases ih later with known | ⟨c, inherited, same⟩
        · rcases List.mem_cons.1 known with same | known
          · exact .inr ⟨b, List.mem_cons_self, same.symm⟩
          · exact .inl known
        · exact .inr ⟨c, List.mem_cons_of_mem _ inherited, same⟩
    · rw [if_neg taken]
      rcases List.mem_cons.1 member with rfl | later
      · exact .inl (Decidable.byContradiction fun fresh => taken ⟨marked, fresh⟩)
      · exact ih later

end Inherited

/-! ## Lines -/

/-- Every class in the lines of the bases is an ancestor. -/
theorem exists_ancestor_of_line {name : String} {bases : List Definition} {ancestors : List Form}
    (ordered : ancestorsOf name bases = .ok ancestors) {b : Definition} (base : b ∈ bases) {f : Form}
    (inLine : f ∈ b.line) : ∃ g ∈ ancestors, g.type = f.type := by
  simp only [ancestorsOf, bind_eq_ok_iff] at ordered
  obtain ⟨-, -, ordered⟩ := ordered
  split at ordered
  · cases ordered
  · rename_i order merged
    split at ordered
    · cases ordered
    · cases ordered
      have sublist : (b.line.map (·.type)).Sublist order :=
        sublist_mergeOrders merged (List.mem_append_left _ (List.mem_map_of_mem base))
      have listed : f.type ∈ order := sublist.subset (List.mem_map_of_mem inLine)
      have known : f ∈ bases.flatMap Definition.line := List.mem_flatMap.2 ⟨b, base, inLine⟩
      cases found : (bases.flatMap Definition.line).find? (·.type = f.type) with
      | none => simpa using List.find?_eq_none.1 found f known
      | some g =>
        have same : g.type = f.type := by simpa using List.find?_some found
        exact ⟨g, List.mem_filterMap.2 ⟨f.type, listed, found⟩, same⟩

namespace Session

variable {s t : Session} {d : Definition}

/-- Every class that is known has a definition, and what is above an ancestor is an ancestor. -/
structure Lineal (s : Session) : Prop where
  defined : ∀ c, .type c ∈ s.subjects → ∃ d ∈ s.definitions, d.type = c
  above : ∀ d ∈ s.definitions, ∀ f ∈ d.ancestors, f.type.ancestors ⊆ d.type.ancestors

theorem lineal_opening (conduct : Conduct) : (opening conduct).Lineal where
  defined := by
    intro c member
    obtain ⟨d, listed, same⟩ := List.mem_map.1 member
    exact ⟨d, listed, Subject.type.inj same⟩
  above := by
    have above : ∀ d ∈ builtin, ∀ f ∈ d.ancestors, ∀ k ∈ f.type.ancestors, k ∈ d.type.ancestors := by
      decide
    exact fun d member f ancestor k => above d member f ancestor k

/-- A new class has the lines of its bases among its ancestors. -/
theorem Lineal.declared (lineal : s.Lineal) (numbered : s.Numbered) {p : Program} {name : String}
    {bases : List Definition} (known : ∀ b ∈ bases, b ∈ s.definitions) (new : d.New p bases)
    (ordered : ancestorsOf name bases = .ok d.ancestors) (q : Program) :
    Lineal ⟨q, d :: s.definitions, .type d.type :: s.subjects⟩ where
  defined := by
    intro c member
    rcases List.mem_cons.1 member with same | old
    · exact ⟨d, List.mem_cons_self, (Subject.type.inj same).symm⟩
    · obtain ⟨e, listed, same⟩ := lineal.defined c old
      exact ⟨e, List.mem_cons_of_mem _ listed, same⟩
  above := by
    refine List.forall_mem_cons.2 ⟨fun f ancestor k higher => ?_, lineal.above⟩
    obtain ⟨b, base, inLine⟩ := new.ancestors f ancestor
    have lined : b.Lined := (numbered.definitions b (known b base)).1
    have above_base : k ∈ b.type.ancestors := by
      rcases List.mem_cons.1 inLine with rfl | later
      · exact higher
      · exact lineal.above b (known b base) f later higher
    rw [lined] at above_base
    obtain ⟨g, listed, rfl⟩ := List.mem_map.1 above_base
    obtain ⟨g', kept, same⟩ := exists_ancestor_of_line ordered base (List.mem_cons_of_mem _ listed)
    rw [new.lined, ← same]
    exact List.mem_map_of_mem kept

theorem Lineal.next (lineal : s.Lineal) (numbered : s.Numbered) (next : s.Next t) : t.Lineal := by
  cases next with
  | recordClass known declared =>
    obtain ⟨-, ordered, -⟩ := declareRecord_spec declared
    exact lineal.declared numbered known (declareRecord_extends declared).2 ordered _
  | plainClass known declared =>
    obtain ⟨-, ordered, -⟩ := declareClass_spec declared
    exact lineal.declared numbered known (declareClass_extends declared).2 ordered _
  | function declared =>
    cases declared
    exact ⟨fun c member => lineal.defined c (by simpa using member), lineal.above⟩
  | object _ declared =>
    simp only [declareObject, bind_eq_ok_iff] at declared
    obtain ⟨_, -, returned⟩ := declared
    cases returned
    exact ⟨fun c member => lineal.defined c (by simpa using member), lineal.above⟩
  | member => exact ⟨lineal.defined, lineal.above⟩
  | behaves => exact ⟨lineal.defined, lineal.above⟩
  | attached => exact ⟨lineal.defined, lineal.above⟩

theorem Reached.lineal (reached : s.Reached) : s.Lineal := by
  induction reached with
  | opening conduct => exact lineal_opening conduct
  | step earlier next ih => exact ih.next earlier.numbered next

end Session

/-! ## What is present -/

/-- What a class inherits from some classes, the nearest first, with annotations of its own. -/
structure Inherits (p : Program) (bases : List Subject) (own inherited : List Annotation) : Prop where
  exactly : inherited = p.inheritable own (bases.flatMap p.declaredOn)
  distinct : (inherited.map (·.type)).Nodup
  hidden : ∀ a ∈ inherited, ∀ b ∈ own, b.type ≠ a.type
  nearest : ∀ a ∈ inherited, ∃ nearer b farther, bases = nearer ++ b :: farther ∧
    (p.declaredOn b).find? (·.type = a.type) = some a ∧
    ∀ c ∈ nearer, ∀ e ∈ p.declaredOn c, e.type ≠ a.type
  handed : ∀ b ∈ bases, ∀ a ∈ p.present b, p.Marked a.type → ∃ e ∈ own ++ inherited, e.type = a.type

section Present

variable {p : Program} {x : Subject} {bases : List Subject}

theorem present_of_bases (offered : x.above.flatMap p.carried = bases.flatMap p.declaredOn) :
    p.present x = p.declaredOn x ++
      p.inheritFrom ((p.declaredOn x).map (·.type)) (bases.flatMap p.declaredOn) := by
  rw [present, offered]

/-- Classes offer what they carry if all that is present on one of them is carried by some. -/
theorem inherits_of_bases (own : List Annotation)
    (line : ∀ b ∈ bases, ∀ a ∈ p.present b, ∃ b' ∈ bases, a ∈ p.declaredOn b') :
    p.Inherits bases own (p.inheritFrom (own.map (·.type)) (bases.flatMap p.declaredOn)) where
  exactly := inheritFrom_eq _ _
  distinct := nodup_inheritFrom _ _
  hidden := by
    intro a member b carried same
    exact (of_mem_inheritFrom member).2.1 (List.mem_map.2 ⟨b, carried, same⟩)
  nearest := by
    intro a member
    have found := (of_mem_inheritFrom member).2.2
    rw [List.find?_flatMap] at found
    obtain ⟨nearer, b, farther, split, here, none_nearer⟩ := List.findSome?_eq_some_iff.1 found
    refine ⟨nearer, b, farther, split, here, fun c listed e carried => ?_⟩
    simpa using List.find?_eq_none.1 (none_nearer c listed) e carried
  handed := by
    intro b base a member marked
    have offered : a ∈ bases.flatMap p.declaredOn := List.mem_flatMap.2 (line b base a member)
    rcases exists_inheritFrom offered marked with known | ⟨e, inherited, same⟩
    · obtain ⟨e, carried, same⟩ := List.mem_map.1 known
      exact ⟨e, List.mem_append_left _ carried, same⟩
    · exact ⟨e, List.mem_append_right _ inherited, same⟩

/-- Whatever is present on something is declared on it or carried above it. -/
theorem exists_above_of_present {a : Annotation} (member : a ∈ p.present x) :
    a ∈ p.declaredOn x ∨ ∃ k ∈ x.above, a ∈ p.carried k :=
  (List.mem_append.1 member).imp_right fun inherited =>
    List.mem_flatMap.1 (p.mem_of_mem_inheritFrom inherited)

end Present

section Lines

variable (p : Program)

/-- What is present on a class of a line is declared on some class of it. -/
theorem exists_declaredOn_of_line {line : List Class}
    (closed : ∀ b ∈ line, b.ancestors ⊆ line.map Class.key) :
    ∀ b ∈ line.map Subject.type, ∀ a ∈ p.present b, ∃ b' ∈ line.map Subject.type,
      a ∈ p.declaredOn b' := by
  intro x listed a member
  obtain ⟨b, base, rfl⟩ := List.mem_map.1 listed
  rcases exists_above_of_present member with own | ⟨k, above, holds⟩
  · exact ⟨_, listed, own⟩
  · obtain ⟨b', ancestor, rfl⟩ := List.mem_map.1 (closed b base above)
    exact ⟨_, List.mem_map_of_mem ancestor, holds⟩

/-- The classes of errors above a class of the library, nearest first. -/
def errorBases (home name : String) : List Subject :=
  if home = errorHome then (errorsAbove name).map (.library home · true) else []

theorem above_error {name : String} :
    ∀ higher ∈ errorsAbove name, errorsAbove higher ⊆ errorsAbove name := by
  unfold errorsAbove
  split <;> simp

theorem above_library (home name : String) :
    (Subject.library home name true).above.flatMap p.carried =
      (errorBases home name).flatMap p.declaredOn := by
  rw [Subject.above, errorBases]
  split
  · rw [List.flatMap_map, List.flatMap_map]
    rfl
  · rfl

theorem exists_declaredOn_of_errorBases (home name : String) :
    ∀ b ∈ errorBases home name, ∀ a ∈ p.present b, ∃ b' ∈ errorBases home name,
      a ∈ p.declaredOn b' := by
  intro x listed a member
  rcases exists_above_of_present member with own | ⟨k, above, holds⟩
  · exact ⟨_, listed, own⟩
  · unfold errorBases at listed ⊢
    split
    · rename_i at_home
      rw [if_pos at_home] at listed
      obtain ⟨base, above_name, rfl⟩ := List.mem_map.1 listed
      rw [Subject.above, if_pos at_home] at above
      obtain ⟨higher, above_base, rfl⟩ := List.mem_map.1 above
      exact ⟨.library home higher true,
        List.mem_map_of_mem (above_error base above_name above_base), holds⟩
    · rename_i elsewhere
      rw [if_neg elsewhere] at listed
      cases listed

end Lines

/-- **What is present on a class** is what is declared on it, followed by what it inherits from
the classes in its line; on anything else it is what is declared there. -/
theorem Session.Reached.present_eq {s : Session} (reached : s.Reached) :
    (∀ c, s.Knows (.type c) → ∃ d ∈ s.definitions, d.type = c) ∧
    (∀ d ∈ s.definitions, ∃ inherited,
      s.program.present (.type d.type) = s.program.declaredOn (.type d.type) ++ inherited ∧
      s.program.Inherits (d.ancestors.map fun f => .type f.type)
        (s.program.declaredOn (.type d.type)) inherited) ∧
    (∀ home name, ∃ inherited,
      s.program.present (.library home name true) =
        s.program.declaredOn (.library home name true) ++ inherited ∧
      s.program.Inherits (errorBases home name)
        (s.program.declaredOn (.library home name true)) inherited) ∧
    ∀ x, (∀ c, x ≠ .type c) → (∀ home name, x ≠ .library home name true) →
      s.program.present x = s.program.declaredOn x := by
  refine ⟨fun c known => ?_, fun d known => ?_, fun home name => ?_, fun x other others => ?_⟩
  · rcases known with keyless | named | member
    · cases keyless
    · cases named
    · exact reached.lineal.defined c member
  · have lined : d.Lined := (reached.numbered.definitions d known).1
    have line : d.type.ancestors = (d.ancestors.map (·.type)).map Class.key := by
      rw [lined, List.map_map]
      rfl
    have closed : ∀ b ∈ d.ancestors.map (·.type), b.ancestors ⊆ d.type.ancestors := by
      intro b listed
      obtain ⟨f, ancestor, rfl⟩ := List.mem_map.1 listed
      exact reached.lineal.above d known f ancestor
    have subjects : (d.ancestors.map fun f => Subject.type f.type) =
        (d.ancestors.map (·.type)).map Subject.type := by
      rw [List.map_map]
      rfl
    have offered : (Subject.type d.type).above.flatMap s.program.carried =
        ((d.ancestors.map (·.type)).map Subject.type).flatMap s.program.declaredOn := by
      rw [Subject.above, line]
      simp only [List.flatMap_map]
      rfl
    rw [line] at closed
    rw [subjects]
    exact ⟨_, present_of_bases offered,
      inherits_of_bases _ (exists_declaredOn_of_line s.program closed)⟩
  · exact ⟨_, present_of_bases (above_library s.program home name),
      inherits_of_bases _ (exists_declaredOn_of_errorBases s.program home name)⟩
  · refine present_of_above_nil _ ?_
    cases x with
    | type c => exact absurd rfl (other c)
    | library home name isClass =>
      cases isClass with
      | true => exact absurd rfl (others home name)
      | false => rfl
    | _ => rfl

/-! ## Metadata on the class of all annotations

Metadata is marked, and the class of all annotations carries some, so that selections have it as
well. -/

namespace Handed

open Session

def metadata : Annotation :=
  ⟨.metadata, [(.text "kind", .text "Annotation"), (.text "properties", .tuple [])]⟩

/-- The class of metadata carries the mark. -/
def marked : Session :=
  { Session.initial with program := { Program.initial with
      attached := Program.initial.attached.put Class.metadata.key
        [⟨.inherited, []⟩, .documented, .restriction [.type, .function]] } }

def session : Session :=
  { marked with program := { marked.program with
      attached := marked.program.attached.put Class.base.key [metadata] } }

theorem reached_session : session.Reached := by
  have metadata_known : Session.initial.Knows (.type .metadata) :=
    .inr (.inr (List.mem_map_of_mem (a := Definition.metadata) (by simp [builtin])))
  have unfielded : Definition.inherited.form.make [] = .ok ⟨.inherited, []⟩ := rfl
  have accepted : Program.initial.attach (.type .metadata) ⟨.inherited, []⟩ = .ok marked.program := rfl
  have first : Session.initial.Next marked :=
    .attached metadata_known rfl (by simp [Session.initial, opening, builtin]) unfielded accepted
  have base_known : marked.Knows (.type .base) :=
    .inr (.inr (List.mem_map_of_mem (a := Definition.base) (by simp [builtin])))
  have made : Definition.metadata.form.make [(.text "kind", .text "Annotation")] = .ok metadata := rfl
  have carries : marked.program.attach (.type .base) metadata = .ok session.program := rfl
  have second : marked.Next session :=
    .attached base_known rfl (by simp [marked, Session.initial, opening, builtin]) made carries
  exact .step (.step (.opening .silent) first) second

/-- Selections have their own annotation, then the one that is handed down. -/
theorem selection_inherits : session.Reached ∧
    session.program.present (.type .selection) = [.documented, metadata] ∧
    session.program.Inherits [.type .base] [.documented] [metadata] := by
  obtain ⟨-, told, -⟩ := reached_session.present_eq
  have known : Definition.selection ∈ session.definitions := by
    simp [session, marked, Session.initial, opening, builtin]
  obtain ⟨inherited, present, inherits⟩ := told .selection known
  obtain rfl : inherited = [metadata] := inherits.exactly
  exact ⟨reached_session, present, inherits⟩

end Handed

end Hallmark.Program
