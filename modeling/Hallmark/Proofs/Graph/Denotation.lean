/-
# Hallmark.Proofs.Graph.Denotation -- the graph that a document describes

A document has sections, a section declarations, and a declaration the items that stand for its
annotations.  `Shaped` says of a value that all of these are of the right kind, and `Denotes`
which graph it is then: the entities in the order of their section, under each name the
annotations that its declaration lists, and the defaults that are declared, completed for the
metadata type.

Reading a value returns exactly if it is shaped and every name in its sections can be written,
and what it returns is the graph that is denoted (`reads_denoted`).  The names are written before
anything of a declaration is read, for messages that may never be needed, so that one number with
too many digits fails a document that is otherwise sound.
-/
import Hallmark.Proofs.Document.Dictionary
import Hallmark.Proofs.Graph.Shape

namespace Hallmark.Graph

set_option autoImplicit false

open Document

/-! ## What a document denotes -/

/-- The annotation that an item stands for. -/
inductive StandsFor : Value → Annotation → Prop where
  | name (type : String) : StandsFor (.text type) ⟨type, []⟩
  | bare {v : Value} {entries : Attributes} {type : String} (held : v.entries? = some entries)
    (typed : entries.get? (.text "type") = some (.text type))
    (empty : ∀ w, entries.get? (.text "attributes") = some w → w.isTrue = false) :
    StandsFor v ⟨type, []⟩
  | given {v w : Value} {entries attributes : Attributes} {type : String}
    (held : v.entries? = some entries) (typed : entries.get? (.text "type") = some (.text type))
    (found : entries.get? (.text "attributes") = some w) (filled : w.isTrue = true)
    (collected : w.entries? = some attributes) : StandsFor v ⟨type, attributes⟩

/-- The entries of a declaration, which is nothing or a mapping. -/
def Opens (declaration : Value) (entries : Attributes) : Prop :=
  declaration = .none ∧ entries = [] ∨ declaration.entries? = some entries

/-- The annotations that a declaration lists. -/
def Lists (declaration : Value) (annotations : List Annotation) : Prop :=
  ∃ entries items, Opens declaration entries ∧ HeldAt list? entries "annotations" items ∧
    List.Forall₂ StandsFor items annotations

/-- The defaults that a declaration gives. -/
def Presets (declaration : Value) (defaults : Attributes) : Prop :=
  ∃ entries, Opens declaration entries ∧ HeldAt Value.entries? entries "defaults" defaults

/-- What is declared under a name in a section is of some sort; otherwise there is nothing. -/
def Under {α : Type} (section_ : Attributes) (name : Value) (sort : Value → List α → Prop)
    (l : List α) : Prop :=
  match section_.get? name with
  | some declaration => sort declaration l
  | none => l = []

/-- A document whose only entries are its sections. -/
structure Sections (types entities document : Attributes) : Prop where
  known : ∀ key ∈ document.keys, key = .text "types" ∨ key = .text "entities"
  types : HeldAt Value.entries? document "types" types
  entities : HeldAt Value.entries? document "entities" entities

/-- A value with some sections, in which every declaration is as it should be. -/
structure Shaped (v : Value) (types entities : Attributes) : Prop where
  document : OfMapping (Sections types entities) v
  types : ∀ e ∈ types, Declares IsDefaulted e.2
  entities : ∀ e ∈ entities, Declares IsAnnotated e.2

/-- The defaults of the metadata type: those that are declared, and the others. -/
structure Completes (declared whole : Attributes) : Prop where
  merged : whole = metadataDefaults.merge declared
  undeclared : ∀ key, declared.get? (.text key) = none →
    whole.get? (.text key) = metadataDefaults.get? (.text key)
  declared : Dictionary.Distinct declared → ∀ key v, declared.get? (.text key) = some v →
    whole.get? (.text key) = some v

/-- The graph that some sections declare. -/
structure Denotes (types entities : Attributes) (metadataType : String) (g : Graph) : Prop where
  names : g.entityNames = entities.keys
  entity : ∀ name, Under entities name Lists (g.annotations (.entity name))
  type : ∀ name, Under types name Lists (g.annotations (.type name))
  defaults : ∀ name, name ≠ .text metadataType →
    Under types name Presets ((g.defaults.get? name).getD [])
  metadata : ∃ declared whole, Under types (.text metadataType) Presets declared ∧
    g.defaults.get? (.text metadataType) = some whole ∧ Completes declared whole

/-! ## Reading declarations -/

section Declarations

variable {owner : Owner} {v : Value} {a : Annotation} {d entries : Attributes} {key : String}

theorem standsFor_of_heldAt {attributes : Attributes} {type : String}
    (held : v.entries? = some entries) (typed : entries.get? (.text "type") = some (.text type))
    (attributed : HeldAt Value.entries? entries "attributes" attributes) :
    StandsFor v ⟨type, attributes⟩ := by
  cases attributed with
  | leftOut empty => exact .bare held typed empty
  | filled found filled collected => exact .given held typed found filled collected

theorem standsFor_of_annotationOf (read : annotationOf owner v = .ok a) : StandsFor v a := by
  unfold annotationOf at read
  split at read
  · cases read
    exact .name _
  · split at read
    · rename_i entries type found
      obtain ⟨held, typed⟩ : v.entries? = some entries ∧
          entries.get? (.text "type") = some (.text type) := by
        simpa [Option.bind_eq_some_iff] using found
      obtain ⟨attributes, given, rfl⟩ := map_eq_ok_iff.1 read
      exact standsFor_of_heldAt held typed (mappingAt_eq_ok_iff.1 given)
    · cases read

theorem exists_items_of_annotationsOf {annotations : List Annotation}
    (read : annotationsOf owner d = .ok annotations) :
    ∃ items, HeldAt list? d "annotations" items ∧ List.Forall₂ StandsFor items annotations := by
  unfold annotationsOf at read
  simp only [heldAt_iff]
  cases filled : filled? d "annotations" with
  | none =>
    rw [filled] at read
    cases read
    exact ⟨[], .inl ⟨rfl, rfl⟩, .nil⟩
  | some v =>
    rw [filled] at read
    cases opened : v.opened with
    | list items =>
      simp only [Option.map_some, opened] at read
      have listed : list? v = some items := by rw [list?, opened]
      exact ⟨items, .inr ⟨v, rfl, listed⟩,
        (forall₂_of_mapM read).imp fun _ _ => standsFor_of_annotationOf⟩
    | _ =>
      simp only [Option.map_some, opened] at read
      cases read

theorem opens_of_declarationOf (read : declarationOf owner v = .ok entries) : Opens v entries := by
  unfold declarationOf at read
  split at read
  · cases read
    exact .inl ⟨rfl, rfl⟩
  · split at read
    · rename_i held
      cases read
      exact .inr held
    · cases read

theorem of_entityOf {e : Value × Value} {f : Value × List Annotation}
    (read : entityOf e = .ok f) : f.1 = e.1 ∧ Lists e.2 f.2 := by
  simp only [entityOf, bind_eq_ok_iff, mapError_eq_ok_iff] at read
  obtain ⟨_, -, annotations, ⟨entries, declared, listed⟩, same⟩ := read
  cases same
  obtain ⟨items, held, stand⟩ := exists_items_of_annotationsOf listed
  exact ⟨rfl, entries, items, opens_of_declarationOf declared, held, stand⟩

theorem of_typeOf {e : Value × Value} {f : Value × TypeDeclaration} (read : typeOf e = .ok f) :
    f.1 = e.1 ∧ Lists e.2 f.2.annotations ∧ Presets e.2 f.2.defaults := by
  simp only [typeOf, bind_eq_ok_iff, mapError_eq_ok_iff] at read
  obtain ⟨_, -, declaration, ⟨entries, declared, annotations, listed, defaults, preset, whole⟩,
    same⟩ := read
  cases same
  cases whole
  have opens := opens_of_declarationOf declared
  obtain ⟨items, held, stand⟩ := exists_items_of_annotationsOf listed
  exact ⟨rfl, ⟨entries, items, opens, held, stand⟩, entries, opens, mappingAt_eq_ok_iff.1 preset⟩

end Declarations

/-! ## Reading sections -/

section Documents

variable {document types entities : Attributes} {d : Declarations}

/-- Declarations that were read from sections, each under its name. -/
structure ReadFrom (types entities : Attributes) (d : Declarations) : Prop where
  types : Dictionary.Along (fun v t => Lists v t.annotations ∧ Presets v t.defaults) types d.types
  entities : Dictionary.Along Lists entities d.entities

theorem exists_readFrom (read : declarations document = .ok d) :
    ∃ types entities, HeldAt Value.entries? document "types" types ∧
      HeldAt Value.entries? document "entities" entities ∧ ReadFrom types entities d := by
  simp only [declarations, bind_eq_ok_iff, sectionOf_eq_ok_iff] at read
  obtain ⟨types, types_held, _, types_read, entities, entities_held, _, entities_read, same⟩ := read
  cases same
  refine ⟨types, entities, types_held, entities_held, ?_, ?_⟩
  · exact (forall₂_of_mapM types_read).imp fun _ _ => of_typeOf
  · exact (forall₂_of_mapM entities_read).imp fun _ _ => of_entityOf

/-- What is found under a name was read from its declaration. -/
theorem under_of_rel {α β : Type} {section_ : Attributes} {name : Value}
    {sort : Value → List α → Prop} {read : Value → β → Prop} {found : Option β}
    (related : Option.Rel read (section_.get? name) found) (out : β → List α)
    (sorted : ∀ v b, read v b → sort v (out b)) :
    Under section_ name sort ((found.map out).getD []) := by
  unfold Under
  generalize section_.get? name = declared at related ⊢
  cases related with
  | some holds => exact sorted _ _ holds
  | none => rfl

theorem completes_merge (declared : Attributes) :
    Completes declared (metadataDefaults.merge declared) where
  merged := rfl
  undeclared := by
    intro key absent
    have none_declared : declared.filter (·.1 == Value.text key) = [] := by
      rw [List.filter_eq_nil_iff]
      intro e member here
      have missing : declared.find? (·.1 == Value.text key) = none := by
        simpa [Dictionary.get?] using absent
      exact List.find?_eq_none.1 missing e member here
    rw [Dictionary.get?_merge (Value.sharp_text key), none_declared]
    rfl
  declared := by
    intro distinct key v found
    rw [Dictionary.get?_merge_of_distinct (Value.sharp_text key) distinct, found]
    rfl

theorem denotes_of_readFrom {metadataType : String} {g : Graph} (read : ReadFrom types entities d)
    (completed : d.graph (.text metadataType) = .ok g) : Denotes types entities metadataType g := by
  cases completed
  have presets : ∀ name, Under types name Presets
      ((Dictionary.get? (d.types.map fun e => (e.1, e.2.defaults)) name).getD []) := by
    intro name
    rw [Dictionary.get?_map]
    exact under_of_rel (read.types.get? name) _ fun _ _ both => both.2
  refine ⟨read.entities.keys_eq, fun name => ?_, fun name => ?_, fun name other => ?_, ?_⟩
  · have under := under_of_rel (read.entities.get? name) id fun _ _ lists => lists
    rwa [Option.map_id] at under
  · rw [annotations, Dictionary.get?_map]
    exact under_of_rel (read.types.get? name) _ fun _ _ both => both.1
  · have apart : ¬ (Value.text metadataType == name) = true := by
      rw [Value.text_beq_iff]
      exact other
    rw [Dictionary.get?_put_sharp (Value.sharp_text metadataType), if_neg apart]
    exact presets name
  · refine ⟨_, _, presets (.text metadataType), ?_, completes_merge _⟩
    rw [Dictionary.get?_put_sharp (Value.sharp_text metadataType)]
    exact if_pos (Value.text_beq_iff.2 rfl)

/-! ## Shapes and names -/

/-- A section of entries is one of sound declarations under names that can be written. -/
theorem isSection_of_heldAt {sort : Attributes → Prop} {key : String} {entries : Attributes}
    (held : HeldAt Value.entries? document key entries) :
    IsSection sort document key ↔
      (∀ e ∈ entries, Declares sort e.2) ∧ ∀ e ∈ entries, e.1.isWritable = true := by
  rw [IsSection]
  constructor
  · rintro ⟨others, also, sound⟩
    have same : others = entries := by
      rw [← sectionOf_eq_ok_iff] at held also
      exact Except.ok.inj (also.symm.trans held)
    subst same
    exact ⟨fun e member => (sound e member).declared, fun e member => (sound e member).named⟩
  · rintro ⟨declared, named⟩
    exact ⟨entries, held, fun e member => ⟨named e member, declared e member⟩⟩

theorem ofMapping_wellFormed_iff {v : Value} : OfMapping WellFormed v ↔
    ∃ types entities, Shaped v types entities ∧ ∀ e ∈ types ++ entities, e.1.isWritable = true := by
  constructor
  · rintro ⟨document, held, known, types_shaped, entities_shaped⟩
    obtain ⟨types, types_held, -⟩ := id types_shaped
    obtain ⟨entities, entities_held, -⟩ := id entities_shaped
    obtain ⟨types_declared, types_named⟩ := (isSection_of_heldAt types_held).1 types_shaped
    obtain ⟨entities_declared, entities_named⟩ :=
      (isSection_of_heldAt entities_held).1 entities_shaped
    exact ⟨types, entities,
      ⟨⟨document, held, known, types_held, entities_held⟩, types_declared, entities_declared⟩,
      List.forall_mem_append.2 ⟨types_named, entities_named⟩⟩
  · rintro ⟨types, entities, ⟨⟨document, held, sections⟩, types_declared, entities_declared⟩, named⟩
    obtain ⟨types_named, entities_named⟩ := List.forall_mem_append.1 named
    exact ⟨document, held, sections.known,
      (isSection_of_heldAt sections.types).2 ⟨types_declared, types_named⟩,
      (isSection_of_heldAt sections.entities).2 ⟨entities_declared, entities_named⟩⟩

end Documents

/-! ## Reading values -/

/-- A value that is read is shaped, and its sections denote the graph. -/
theorem exists_denotes {metadataType : String} {v : Value} {g : Graph}
    (read : (ofValue (.text metadataType) v).answer = .ok g) :
    ∃ types entities, Shaped v types entities ∧ Denotes types entities metadataType g := by
  have shaped := (returns_ofValue_iff metadataType v).1 ⟨g, read⟩
  rw [ofMapping_wellFormed_iff] at shaped
  obtain ⟨types, entities, shaped, -⟩ := shaped
  obtain ⟨document, held, sections⟩ := id shaped.document
  rw [answer_ofValue, held] at read
  simp only [bind_eq_ok_iff, mapError_eq_ok_iff] at read
  obtain ⟨_, -, d, declared, completed⟩ := read
  obtain ⟨types', entities', types_held, entities_held, readFrom⟩ := exists_readFrom declared
  obtain rfl : types' = types := by
    have first := sectionOf_eq_ok_iff.2 types_held
    rw [sectionOf_eq_ok_iff.2 sections.types] at first
    exact (Except.ok.inj first).symm
  obtain rfl : entities' = entities := by
    have first := sectionOf_eq_ok_iff.2 entities_held
    rw [sectionOf_eq_ok_iff.2 sections.entities] at first
    exact (Except.ok.inj first).symm
  exact ⟨_, _, shaped, denotes_of_readFrom readFrom completed⟩

/-- **A value is read as the graph that it denotes**, if it is shaped as a graph document and the
names in its sections can be written, and not otherwise. -/
theorem reads_denoted (metadataType : String) (v : Value) :
    (Returns (ofValue (.text metadataType) v).answer ↔
      ∃ types entities, Shaped v types entities ∧
        ∀ e ∈ types ++ entities, e.1.isWritable = true) ∧
    ∀ g, (ofValue (.text metadataType) v).answer = .ok g →
      ∃ types entities, Shaped v types entities ∧ Denotes types entities metadataType g :=
  ⟨(returns_ofValue_iff metadataType v).trans ofMapping_wellFormed_iff, fun _ => exists_denotes⟩

/-! A service and two entities that carry it, one of them by its name alone. -/

namespace Services

def document : Value :=
  .map [
    (.text "types", .map [(.text "app.Service", .map [
      (.text "defaults", .map [(.text "name", .text "")]),
      (.text "annotations", .list [.map [
        (.text "type", .text "m"),
        (.text "attributes", .map [(.text "kind", .text "Service")])]])])]),
    (.text "entities", .map [
      (.text "app.UserService", .map [(.text "annotations", .list [.map [
        (.text "type", .text "app.Service"),
        (.text "attributes", .map [(.text "name", .text "users")])]])]),
      (.text "app.Other", .map [(.text "annotations", .list [.text "app.Service"])])])]

def graph : Graph where
  entities := [
    (.text "app.UserService", [⟨"app.Service", [(.text "name", .text "users")]⟩]),
    (.text "app.Other", [⟨"app.Service", []⟩])]
  types := [(.text "app.Service", [⟨"m", [(.text "kind", .text "Service")]⟩])]
  defaults := [(.text "app.Service", [(.text "name", .text "")]), (.text "m", metadataDefaults)]

theorem reads_services :
    (ofValue (.text "m") document).answer = .ok graph ∧
      ∃ types entities, Shaped document types entities ∧ Denotes types entities "m" graph :=
  have read : (ofValue (.text "m") document).answer = .ok graph := rfl
  ⟨read, (reads_denoted "m" document).2 graph read⟩

end Services

/-! An entity without annotations, under a number with one digit too many. -/

namespace Overlong

def document (name : Value) : Attributes := [(.text "entities", .map [(name, .none)])]

theorem sections_document (name : Value) : Sections [] [(name, .none)] (document name) where
  known := by
    intro key member
    exact .inr (List.mem_singleton.1 member)
  types := .leftOut nofun
  entities := .filled rfl rfl rfl

theorem shaped_document (name : Value) : Shaped (.map (document name)) [] [(name, .none)] where
  document := ⟨_, rfl, sections_document name⟩
  types := nofun
  entities := by
    intro e member
    obtain rfl := List.mem_singleton.1 member
    exact .inl rfl

theorem unnamed_document {name : Value} (unwritable : name.isWritable = false) :
    Unnamed (document name) := by
  obtain ⟨known, types, entities⟩ := sections_document name
  exact .entity known ⟨[], types, nofun⟩ ⟨[], (name, .none), [], entities, nofun, unwritable⟩

theorem shaped_unread :
    Shaped (.map (document (.whole Value.tooLong))) [] [(.whole Value.tooLong, .none)] ∧
      Faults (ofValue (.text "m") (.map (document (.whole Value.tooLong)))).answer := by
  have long : Value.tooLong ≤ (Value.tooLong : Int).natAbs :=
    Nat.le_of_eq (Int.natAbs_natCast Value.tooLong).symm
  have unwritable : (Value.whole Value.tooLong).isWritable = false :=
    decide_eq_false (Nat.not_lt.2 long)
  exact ⟨shaped_document _, (faults_ofValue_iff "m" _).2 ⟨_, rfl, unnamed_document unwritable⟩⟩

end Overlong

end Hallmark.Graph
