/-
# Hallmark.Proofs.Graph.Shape -- which values describe a graph

A document describes a graph if it is a mapping of the right shape: no keys but those of its
sections, each section left out or a mapping, each declaration nothing or a mapping, its
annotations a list of names and of mappings with a name, and attributes and defaults mappings.
What is empty counts as left out wherever a collection may stand (`HeldAt`).

Reading such a document returns (`returns_ofValue_iff`).  Any other is refused, unless a name is
needed on the way that cannot be given: refusing unknown keys joins them as texts, and each
declaration is read under its written name.  `Unnamed` says when that is, and only then reading
fails with a fault (`faults_ofValue_iff`).  As the first defect ends the reading, all that was
declared before such a name has to be sound.
-/
import Hallmark.Graph.Load
import Mathlib.Logic.Basic

namespace Hallmark.Graph

set_option autoImplicit false

open Document

/-! ## Shapes -/

def list? (v : Value) : Option (List Value) :=
  match v.opened with
  | .list items => some items
  | _ => none

/-- What a mapping holds under a name as a collection; what is empty there is left out. -/
inductive HeldAt {α : Type} (read : Value → Option (List α)) (d : Attributes) (key : String) :
    List α → Prop where
  | leftOut (empty : ∀ v, d.get? (.text key) = some v → v.isTrue = false) : HeldAt read d key []
  | filled {v : Value} {held : List α} (found : d.get? (.text key) = some v)
    (filled : v.isTrue = true) (collected : read v = some held) : HeldAt read d key held

def OfMapping (sort : Attributes → Prop) (v : Value) : Prop :=
  ∃ entries, v.entries? = some entries ∧ sort entries

inductive IsAnnotation : Value → Prop where
  | name (type : String) : IsAnnotation (.text type)
  | mapping {v : Value} {entries attributes : Attributes} {type : String}
    (held : v.entries? = some entries) (typed : entries.get? (.text "type") = some (.text type))
    (given : HeldAt Value.entries? entries "attributes" attributes) : IsAnnotation v

def IsAnnotated (declaration : Attributes) : Prop :=
  ∃ items, HeldAt list? declaration "annotations" items ∧ ∀ item ∈ items, IsAnnotation item

/-- The declaration of a type has defaults next to its annotations. -/
def IsDefaulted (declaration : Attributes) : Prop :=
  IsAnnotated declaration ∧ ∃ defaults, HeldAt Value.entries? declaration "defaults" defaults

def Declares (sort : Attributes → Prop) (v : Value) : Prop := v = .none ∨ OfMapping sort v

/-- An entry of a section: a name that can be written, and a declaration of some sort. -/
structure IsEntry (sort : Attributes → Prop) (e : Value × Value) : Prop where
  named : e.1.isWritable = true
  declared : Declares sort e.2

def IsSection (sort : Attributes → Prop) (document : Attributes) (key : String) : Prop :=
  ∃ entries, HeldAt Value.entries? document key entries ∧ ∀ e ∈ entries, IsEntry sort e

structure WellFormed (document : Attributes) : Prop where
  known : ∀ key ∈ document.keys, key = .text "types" ∨ key = .text "entities"
  types : IsSection IsDefaulted document "types"
  entities : IsSection IsAnnotated document "entities"

/-- A section in which a name that cannot be written comes behind sound entries only. -/
def IsUnwritten (sort : Attributes → Prop) (document : Attributes) (key : String) : Prop :=
  ∃ before e after, HeldAt Value.entries? document key (before ++ e :: after) ∧
    (∀ b ∈ before, IsEntry sort b) ∧ e.1.isWritable = false

/-- A document of which a name is needed that cannot be given. -/
inductive Unnamed (document : Attributes) : Prop where
  | key {key : Value} (member : key ∈ document.keys) (untyped : ∀ s, key ≠ .text s) :
    Unnamed document
  | type (known : ∀ key ∈ document.keys, key = .text "types" ∨ key = .text "entities")
    (unwritten : IsUnwritten IsDefaulted document "types") : Unnamed document
  | entity (known : ∀ key ∈ document.keys, key = .text "types" ∨ key = .text "entities")
    (types : IsSection IsDefaulted document "types")
    (unwritten : IsUnwritten IsAnnotated document "entities") : Unnamed document

/-! ## Collections -/

variable {α : Type} {d : Attributes} {key : String}

theorem heldAt_iff {read : Value → Option (List α)} {held : List α} :
    HeldAt read d key held ↔
      (filled? d key = none ∧ held = []) ∨ ∃ v, filled? d key = some v ∧ read v = some held := by
  simp only [filled?, Option.filter_eq_none_iff, Option.filter_eq_some_iff]
  constructor
  · rintro (empty | ⟨found, filled, collected⟩)
    · exact .inl ⟨by simpa using empty, rfl⟩
    · exact .inr ⟨_, ⟨found, filled⟩, collected⟩
  · rintro (⟨empty, rfl⟩ | ⟨v, ⟨found, filled⟩, collected⟩)
    · exact .leftOut (by simpa using empty)
    · exact .filled found filled collected

theorem mappingAt_eq_ok_iff {defect : LoadError} {entries : Attributes} :
    mappingAt d key defect = .ok entries ↔ HeldAt Value.entries? d key entries := by
  rw [heldAt_iff, mappingAt]
  cases filled? d key with
  | none => simp [eq_comm]
  | some v => cases held : v.entries? <;> simp [held]

theorem sectionOf_eq_ok_iff {entries : Attributes} :
    sectionOf d key = .ok entries ↔ HeldAt Value.entries? d key entries := by
  rw [sectionOf, mapError_eq_ok_iff, mappingAt_eq_ok_iff]

/-! ## Declarations -/

section Declarations

variable (owner : Owner) {v : Value} {e : Value × Value}

theorem returns_annotationOf_iff : Returns (annotationOf owner v) ↔ IsAnnotation v := by
  unfold annotationOf
  split
  · exact ⟨fun _ => .name _, fun _ => ⟨_, rfl⟩⟩
  · rename_i other
    split
    · rename_i entries type found
      obtain ⟨held, typed⟩ : v.entries? = some entries ∧
          entries.get? (.text "type") = some (.text type) := by
        simpa [Option.bind_eq_some_iff] using found
      simp only [Returns, map_eq_ok_iff, mappingAt_eq_ok_iff]
      constructor
      · rintro ⟨-, attributes, given, -⟩
        exact .mapping held typed given
      · intro shape
        cases shape with
        | name type => exact absurd rfl (other type)
        | mapping held' typed' given =>
          cases held.symm.trans held'
          cases typed.symm.trans typed'
          exact ⟨_, _, given, rfl⟩
    · rename_i untyped
      constructor
      · rintro ⟨a, fails⟩
        cases fails
      · intro shape
        cases shape with
        | name type => exact absurd rfl (other type)
        | @mapping _ entries _ type held typed _ =>
          exact (untyped entries type (by simp [held, typed])).elim

theorem returns_annotationsOf_iff : Returns (annotationsOf owner d) ↔ IsAnnotated d := by
  simp only [IsAnnotated, heldAt_iff, ← returns_annotationOf_iff owner]
  unfold annotationsOf
  cases filled? d "annotations" with
  | none => simp [Returns]
  | some v =>
    cases opened : v.opened with
    | list items => simp [opened, list?, exists_mapM_iff, Returns]
    | _ => simp [opened, list?, Returns]

theorem exists_declarationOf_iff {sort : Attributes → Prop} (bare : sort []) :
    (∃ declaration, declarationOf owner v = .ok declaration ∧ sort declaration) ↔
      Declares sort v := by
  unfold declarationOf
  split
  · exact ⟨fun _ => .inl rfl, fun _ => ⟨[], rfl, bare⟩⟩
  · rename_i something
    rw [Declares, or_iff_right something, OfMapping]
    cases v.entries? <;> simp

theorem isAnnotated_nil : IsAnnotated [] := ⟨[], .leftOut nofun, nofun⟩

theorem isDefaulted_nil : IsDefaulted [] := ⟨isAnnotated_nil, [], .leftOut nofun⟩

end Declarations

/-! ## Entries

What is named is read under its name, and nothing else of it can fail with a fault. -/

section Entries

variable {β : Type} {kind : Value → Owner} {name : Value} {read : Owner → Except LoadError β}
  {e : Value × Value}

theorem exists_named_iff (kind : Value → Owner) :
    (∃ owner, named kind name = .ok owner) ↔ name.isWritable = true := by
  rw [← Value.exists_written_iff, named, exists_map_iff]
  simp only [mapError_eq_ok_iff]

theorem faults_named_iff : Faults (named kind name) ↔ name.isWritable = false := by
  unfold named Value.written
  split
  · rename_i writable
    exact ⟨fun ⟨_, fails⟩ => (by cases fails), fun unwritable => by simp [writable] at unwritable⟩
  · rename_i unwritable
    exact ⟨fun _ => by simpa using unwritable, fun _ => ⟨_, rfl⟩⟩

theorem returns_entry_iff {shape : Prop} (shaped : ∀ owner, Returns (read owner) ↔ shape) :
    Returns (do let owner ← named kind name; return (name, ← (read owner).mapError Failure.refused))
      ↔ name.isWritable = true ∧ shape := by
  simp only [Returns, bind_eq_ok_iff, mapError_eq_ok_iff, ← exists_named_iff kind]
  constructor
  · rintro ⟨-, owner, written, b, returned, -⟩
    exact ⟨⟨owner, written⟩, (shaped owner).1 ⟨b, returned⟩⟩
  · rintro ⟨⟨owner, written⟩, holds⟩
    obtain ⟨b, returned⟩ := (shaped owner).2 holds
    exact ⟨_, owner, written, b, returned, rfl⟩

theorem faults_entry_iff :
    Faults (do let owner ← named kind name; return (name, ← (read owner).mapError Failure.refused))
      ↔ name.isWritable = false := by
  simp only [faults_bind_iff, faults_named_iff, not_faults_mapError_refused, not_faults_pure,
    and_false, exists_false, or_false]

theorem returns_typeOf_iff : Returns (typeOf e) ↔ IsEntry IsDefaulted e := by
  refine (returns_entry_iff fun owner => ?_).trans ⟨fun ⟨w, d⟩ => ⟨w, d⟩, fun ⟨w, d⟩ => ⟨w, d⟩⟩
  simp only [Returns, bind_eq_ok_iff, mappingAt_eq_ok_iff]
  rw [← exists_declarationOf_iff owner isDefaulted_nil]
  constructor
  · rintro ⟨-, declaration, declared, annotations, listed, defaults, held, -⟩
    exact ⟨declaration, declared, (returns_annotationsOf_iff owner).1 ⟨_, listed⟩, defaults, held⟩
  · rintro ⟨declaration, declared, annotated, defaults, held⟩
    obtain ⟨annotations, listed⟩ := (returns_annotationsOf_iff owner).2 annotated
    exact ⟨_, declaration, declared, annotations, listed, defaults, held, rfl⟩

theorem faults_typeOf_iff : Faults (typeOf e) ↔ e.1.isWritable = false := faults_entry_iff

theorem returns_entityOf_iff : Returns (entityOf e) ↔ IsEntry IsAnnotated e := by
  refine (returns_entry_iff fun owner => ?_).trans ⟨fun ⟨w, d⟩ => ⟨w, d⟩, fun ⟨w, d⟩ => ⟨w, d⟩⟩
  simp only [Returns, bind_eq_ok_iff]
  rw [← exists_declarationOf_iff owner isAnnotated_nil]
  constructor
  · rintro ⟨annotations, declaration, declared, listed⟩
    exact ⟨declaration, declared, (returns_annotationsOf_iff owner).1 ⟨annotations, listed⟩⟩
  · rintro ⟨declaration, declared, annotated⟩
    obtain ⟨annotations, listed⟩ := (returns_annotationsOf_iff owner).2 annotated
    exact ⟨annotations, declaration, declared, listed⟩

theorem faults_entityOf_iff : Faults (entityOf e) ↔ e.1.isWritable = false := faults_entry_iff

end Entries

/-! ## Sections -/

section Sections

variable {β : Type} {read : Value × Value → Except (Failure LoadError) β}
  {sort : Attributes → Prop}

theorem returns_section_iff (returned : ∀ e, Returns (read e) ↔ IsEntry sort e) :
    Returns (do (← sectionOf d key).mapM read) ↔ IsSection sort d key := by
  simp only [IsSection, ← returned]
  unfold Returns
  rw [exists_congr fun _ => bind_eq_ok_iff]
  simp only [← exists_mapM_iff, sectionOf_eq_ok_iff]
  constructor
  · rintro ⟨bs, entries, held, read⟩
    exact ⟨entries, held, bs, read⟩
  · rintro ⟨entries, held, bs, read⟩
    exact ⟨bs, entries, held, read⟩

theorem faults_section_iff (returned : ∀ e, Returns (read e) ↔ IsEntry sort e)
    (failed : ∀ e, Faults (read e) ↔ e.1.isWritable = false) :
    Faults (do (← sectionOf d key).mapM read) ↔ IsUnwritten sort d key := by
  simp only [faults_bind_iff, sectionOf_eq_ok_iff, faults_mapM_iff, returned, failed]
  constructor
  · rintro (fails | ⟨_, held, before, e, after, rfl, sound, unwritten⟩)
    · exact (not_faults_mapError_refused fails).elim
    · exact ⟨before, e, after, held, sound, unwritten⟩
  · rintro ⟨before, e, after, held, sound, unwritten⟩
    exact .inr ⟨_, held, before, e, after, rfl, sound, unwritten⟩

end Sections

section Documents

variable {document : Attributes}

theorem declarations_eq (document : Attributes) : declarations document = do
    let types ← (do (← sectionOf document "types").mapM typeOf)
    let entities ← (do (← sectionOf document "entities").mapM entityOf)
    return ⟨types, entities⟩ := by
  simp only [declarations, bind_assoc]

theorem returns_declarations_iff : Returns (declarations document) ↔
    IsSection IsDefaulted document "types" ∧ IsSection IsAnnotated document "entities" := by
  rw [← returns_section_iff fun _ => returns_typeOf_iff,
    ← returns_section_iff fun _ => returns_entityOf_iff, declarations_eq]
  constructor
  · rintro ⟨_, returned⟩
    obtain ⟨types, listed, rest⟩ := bind_eq_ok_iff.1 returned
    obtain ⟨entities, found, -⟩ := bind_eq_ok_iff.1 rest
    exact ⟨⟨types, listed⟩, entities, found⟩
  · rintro ⟨⟨types, listed⟩, entities, found⟩
    exact ⟨_, bind_eq_ok_iff.2 ⟨types, listed, bind_eq_ok_iff.2 ⟨entities, found, rfl⟩⟩⟩

theorem faults_declarations_iff : Faults (declarations document) ↔
    IsUnwritten IsDefaulted document "types" ∨
      IsSection IsDefaulted document "types" ∧ IsUnwritten IsAnnotated document "entities" := by
  rw [← faults_section_iff (fun _ => returns_typeOf_iff) fun _ => faults_typeOf_iff,
    ← faults_section_iff (fun _ => returns_entityOf_iff) fun _ => faults_entityOf_iff,
    ← returns_section_iff fun _ => returns_typeOf_iff, declarations_eq, faults_bind_iff]
  refine or_congr_right ?_
  constructor
  · rintro ⟨types, listed, fails⟩
    refine ⟨⟨types, listed⟩, ?_⟩
    rw [faults_bind_iff] at fails
    exact fails.resolve_right fun ⟨_, _, done⟩ => not_faults_pure done
  · rintro ⟨⟨types, listed⟩, fails⟩
    exact ⟨types, listed, faults_bind_iff.2 (.inl fails)⟩

/-! ## Keys -/

theorem isSection_iff {v : Value} :
    isSection v = true ↔ v = .text "types" ∨ v = .text "entities" := by
  simp [isSection]

theorem unknown_eq_nil_iff : document.keys.filter (!isSection ·) = [] ↔
    ∀ key ∈ document.keys, key = .text "types" ∨ key = .text "entities" := by
  simp [List.filter_eq_nil_iff, isSection_iff]

theorem unknownKeys_of_ne_nil (unknown : document.keys.filter (!isSection ·) ≠ []) :
    unknownKeys document = (do
      let names ← (allText (document.keys.filter (!isSection ·))).mapError .fault
      throw (.refused (.unknownKeys (Settings.sortNames names)))) := by
  unfold unknownKeys
  rw [if_pos (by simpa using unknown)]

theorem returns_unknownKeys_iff : Returns (unknownKeys document) ↔
    ∀ key ∈ document.keys, key = .text "types" ∨ key = .text "entities" := by
  rw [← unknown_eq_nil_iff]
  constructor
  · rintro ⟨_, returned⟩
    refine Decidable.byContradiction fun unknown => ?_
    rw [unknownKeys_of_ne_nil unknown, bind_eq_ok_iff] at returned
    obtain ⟨names, -, thrown⟩ := returned
    cases thrown
  · intro known
    exact ⟨(), by simp [unknownKeys, known, pure, Except.pure]⟩

/-- Unknown keys are refused by name, so that one that is no text is a fault. -/
theorem faults_unknownKeys_iff : Faults (unknownKeys document) ↔
    ∃ key ∈ document.keys, ∀ s, key ≠ .text s := by
  by_cases known : document.keys.filter (!isSection ·) = []
  · have sections := unknown_eq_nil_iff.1 known
    obtain ⟨_, returned⟩ := returns_unknownKeys_iff.2 sections
    constructor
    · rintro ⟨f, fails⟩
      rw [returned] at fails
      cases fails
    · rintro ⟨key, member, untyped⟩
      rcases sections key member with rfl | rfl
      · exact absurd rfl (untyped _)
      · exact absurd rfl (untyped _)
  · have thrown : ∀ names, ¬ Faults (throw (.refused (.unknownKeys (Settings.sortNames names)))
        : Except (Failure LoadError) Unit) := by
      rintro names ⟨f, fails⟩
      cases fails
    have texts : ∀ key, isSection key = true → ∃ s, key = .text s := by
      intro key listed
      rcases isSection_iff.1 listed with rfl | rfl
      · exact ⟨_, rfl⟩
      · exact ⟨_, rfl⟩
    rw [unknownKeys_of_ne_nil known, faults_bind_iff, faults_mapError_fault_iff,
      returns_allText_filter_iff texts]
    simp only [thrown, and_false, exists_false, or_false, not_forall, not_exists, exists_prop]

end Documents

/-! ## Values -/

section Values

variable (metadataType : String) (v : Value)

theorem answer_ofValue : (ofValue (.text metadataType) v).answer =
    match v.entries? with
    | some document => do
      unknownKeys document
      let d ← declarations document
      (d.graph (.text metadataType)).mapError .fault
    | none => .error (.refused .notMapping) := by
  unfold ofValue
  cases v.entries? with
  | none => rfl
  | some document =>
    simp only [Traced.answer_bind, Traced.answer_ofExcept, Traced.answer_report]
    rfl

/-- A value describes a graph exactly if it is a well-formed mapping. -/
theorem returns_ofValue_iff :
    Returns (ofValue (.text metadataType) v).answer ↔ OfMapping WellFormed v := by
  rw [answer_ofValue, OfMapping]
  cases v.entries? with
  | none => simp [Returns]
  | some document =>
    simp only [Option.some.injEq, exists_eq_left']
    constructor
    · rintro ⟨g, loaded⟩
      simp only [bind_eq_ok_iff] at loaded
      obtain ⟨_, accepted, d, declared, -⟩ := loaded
      obtain ⟨types, entities⟩ := returns_declarations_iff.1 ⟨d, declared⟩
      exact ⟨returns_unknownKeys_iff.1 ⟨_, accepted⟩, types, entities⟩
    · rintro ⟨known, types, entities⟩
      obtain ⟨_, accepted⟩ := returns_unknownKeys_iff.2 known
      obtain ⟨d, declared⟩ := returns_declarations_iff.2 ⟨types, entities⟩
      simp only [Returns, bind_eq_ok_iff]
      exact ⟨_, (), accepted, d, declared, rfl⟩

theorem faults_ofValue_iff :
    Faults (ofValue (.text metadataType) v).answer ↔ OfMapping Unnamed v := by
  rw [answer_ofValue, OfMapping]
  cases v.entries? with
  | none => simp [Faults]
  | some document =>
    have completes : ∀ d : Declarations,
        ¬ Faults ((d.graph (.text metadataType)).mapError (Failure.fault (ε := LoadError))) := by
      intro d
      rw [faults_mapError_fault_iff, not_not]
      exact ⟨_, rfl⟩
    simp only [Option.some.injEq, exists_eq_left', faults_bind_iff, completes, and_false,
      exists_false, or_false, faults_unknownKeys_iff, faults_declarations_iff]
    constructor
    · rintro (⟨key, member, untyped⟩ | ⟨u, accepted, unwritten | ⟨types, unwritten⟩⟩)
      · exact .key member untyped
      · exact .type (returns_unknownKeys_iff.1 ⟨u, accepted⟩) unwritten
      · exact .entity (returns_unknownKeys_iff.1 ⟨u, accepted⟩) types unwritten
    · rintro (⟨member, untyped⟩ | ⟨known, unwritten⟩ | ⟨known, types, unwritten⟩)
      · exact .inl ⟨_, member, untyped⟩
      · obtain ⟨u, accepted⟩ := returns_unknownKeys_iff.2 known
        exact .inr ⟨u, accepted, .inl unwritten⟩
      · obtain ⟨u, accepted⟩ := returns_unknownKeys_iff.2 known
        exact .inr ⟨u, accepted, .inr ⟨types, unwritten⟩⟩

end Values

end Hallmark.Graph
