/-
# Hallmark.Proofs.Program.Snapshot -- a program copied into a graph

What a search can see of a program from some subject can be written down as a graph: an
entity with the annotations that are present on the subject, and for each type that is
reached from there an entry with those present on the type.  Classes become their qualified
names, and each annotation is listed with the attributes that it reads out.  If no two of the
reached types share a qualified name, the graph describes the entity as the program describes
the subject, whatever metadata type the graph completes (`describe_snapshot`).

The two models are alike to a search, annotation by annotation.  Resolving an annotation of
the graph puts its attributes over the defaults of the metadata type; as no attribute occurs
twice the same kind and properties are found, or a default that reads as nothing does.

An entity of the graph can always be written and a subject of a program cannot.  Where nothing is
found and the subject cannot be written, a query fails in the program and is false in the graph;
everywhere else the two give the same answer.
-/
import Hallmark.Graph.Basic
import Hallmark.Proofs.Document.Dictionary
import Hallmark.Proofs.Program.Session
import Hallmark.Proofs.Search.Likeness

namespace Hallmark.Program

set_option autoImplicit false

open Document

/-! ## Copies -/

/-- The types of the annotations on a subject, of those on these types, and so on. -/
inductive Reaches (p : Program) (x : Subject) : Class → Prop where
  | here {a : Annotation} (member : a ∈ p.present x) : Reaches p x a.type
  | onward {t : Class} {a : Annotation} (reached : Reaches p x t)
    (member : a ∈ p.present (.type t)) : Reaches p x a.type

section Copy

variable (p : Program)

/-- An annotation as a graph lists it. -/
def noted (a : Annotation) : Except Fault Graph.Annotation :=
  (⟨a.type.qualifiedName, ·⟩) <$> p.attributesOf a

def notes (x : Subject) : Except Fault (List Graph.Annotation) := (p.present x).mapM p.noted

/-- A type as a graph declares it. -/
def notedType (t : Class) : Except Fault (Value × List Graph.Annotation) :=
  (.text t.qualifiedName, ·) <$> p.notes (.type t)

/-- The graph that declares some types, and an entity that is annotated as a subject is. -/
def snapshot (x : Subject) (types : List Class) (name : String) (metadataType : Value) :
    Except Fault Graph := do
  let declared ← types.mapM p.notedType
  let carried ← p.notes x
  Graph.complete [(.text name, carried)] declared [] metadataType

end Copy

section Agreement

variable {p : Program} {x : Subject} {t : Class} {types : List Class} {name : String}
  {metadataType : Value} {g : Graph} {a : Annotation} {b : Graph.Annotation}

theorem noted_eq (noted : p.noted a = .ok b) :
    p.attributesOf a = .ok b.attributes ∧ b.type = a.type.qualifiedName := by
  obtain ⟨attributes, read, rfl⟩ := map_eq_ok_iff.1 noted
  exact ⟨read, rfl⟩

/-- A declared type is found by its qualified name if no other one has it. -/
theorem exists_get?_notedType {declared : Dictionary Value (List Graph.Annotation)}
    (copied : List.Forall₂ (fun t e => p.notedType t = .ok e) types declared) (member : t ∈ types)
    (alone : ∀ u ∈ types, u.qualifiedName = t.qualifiedName → u = t) :
    ∃ l, declared.get? (.text t.qualifiedName) = some l ∧ p.notes (.type t) = .ok l := by
  induction copied with
  | nil => cases member
  | @cons u e rest later head _ ih =>
    obtain ⟨l, noted, rfl⟩ := map_eq_ok_iff.1 head
    rw [Dictionary.get?_cons]
    by_cases same : u.qualifiedName = t.qualifiedName
    · obtain rfl := alone u List.mem_cons_self same
      exact ⟨l, by simp, noted⟩
    · have elsewhere : t ∈ rest := (List.mem_cons.1 member).resolve_left fun here => same (here ▸ rfl)
      obtain ⟨k, found, read⟩ := ih elsewhere fun v listed => alone v (List.mem_cons_of_mem _ listed)
      exact ⟨k, by simpa [same] using found, read⟩

/-- What a copy declares. -/
structure Copies (p : Program) (x : Subject) (name : String) (g : Graph) : Prop where
  entity : p.notes x = .ok (g.annotations (.entity (.text name)))
  type : ∀ t, p.Reaches x t →
    p.notes (.type t) = .ok (g.annotations (.type (.text t.qualifiedName)))
  defaults : ∀ type, (g.defaults.get? (.text type)).getD [] = [] ∨
    (g.defaults.get? (.text type)).getD [] = Graph.metadataDefaults

theorem copies_snapshot (complete : ∀ t, t ∈ types ↔ p.Reaches x t)
    (named : ∀ t u, p.Reaches x t → p.Reaches x u → t.qualifiedName = u.qualifiedName → t = u)
    (copied : p.snapshot x types name metadataType = .ok g) : Copies p x name g := by
  simp only [snapshot, bind_eq_ok_iff, Graph.complete] at copied
  obtain ⟨declared, listed, carried, noted, completed⟩ := copied
  split at completed
  · cases completed
    refine ⟨?_, fun t reached => ?_, fun type => ?_⟩
    · rw [noted]
      simp [Graph.annotations, Dictionary.get?_cons]
    · have alone : ∀ u ∈ types, u.qualifiedName = t.qualifiedName → u = t :=
        fun u member => named u t ((complete u).1 member) reached
      obtain ⟨l, found, read⟩ :=
        exists_get?_notedType (forall₂_of_mapM listed) ((complete t).2 reached) alone
      rw [read, Graph.annotations, found]
      rfl
    · rw [Dictionary.get?_put_of_sharp (Value.sharp_text type)]
      split
      · exact .inr rfl
      · exact .inl rfl
  · cases completed

/-! ## Attributes with defaults -/

/-- Attributes as both models resolve them, with lists as tuples. -/
abbrev settledIn (attributes : Attributes) : Attributes :=
  attributes.map fun e => (e.1, e.2.settled)

theorem resolved_eq {attributes : Attributes} (read : p.attributesOf a = .ok attributes) :
    p.resolved a = .ok (settledIn attributes) := by
  rw [Program.resolved, read]
  rfl

variable {defaults attributes : Attributes}

/-- A default that reads as nothing reads is as good as none. -/
theorem read_merge {α : Type} (read : Value → α) (key : String)
    (distinct : Dictionary.Distinct attributes)
    (blank : ∀ v, defaults.get? (.text key) = some v → read v.settled = read .none) :
    read (((settledIn (defaults.merge attributes)).get? (.text key)).getD .none)
      = read (((settledIn attributes).get? (.text key)).getD .none) := by
  rw [Dictionary.get?_map, Dictionary.get?_map,
    Dictionary.get?_merge_of_distinct (Value.sharp_text key) distinct]
  cases attributes.get? (.text key) with
  | some v => rfl
  | none =>
    cases default : defaults.get? (.text key) with
    | none => rfl
    | some v => exact blank v default

open Descriptor in
/-- A descriptor is what is read as its kind and as its properties. -/
theorem ofAttributes_eq_of_read {d e : Attributes}
    (kind : kindOf ((d.get? (.text "kind")).getD .none)
      = kindOf ((e.get? (.text "kind")).getD .none))
    (properties : propertiesOf (collected ((d.get? (.text "properties")).getD .none))
      = propertiesOf (collected ((e.get? (.text "properties")).getD .none))) :
    ofAttributes d = ofAttributes e := by
  rw [ofAttributes, ofAttributes, ofValues, ofValues, kind, properties]

theorem ofAttributes_merge (distinct : Dictionary.Distinct attributes)
    (blank : defaults = [] ∨ defaults = Graph.metadataDefaults) :
    Descriptor.ofAttributes (settledIn (defaults.merge attributes))
      = Descriptor.ofAttributes (settledIn attributes) := by
  have kind : ∀ v, defaults.get? (.text "kind") = some v →
      Descriptor.kindOf v.settled = Descriptor.kindOf .none := by
    intro v default
    rcases blank with rfl | rfl
    · cases default
    · cases default
      rfl
  have properties : ∀ v, defaults.get? (.text "properties") = some v →
      Descriptor.propertiesOf (Descriptor.collected v.settled)
        = Descriptor.propertiesOf (Descriptor.collected .none) := by
    intro v default
    rcases blank with rfl | rfl
    · cases default
    · cases default
      rfl
  exact ofAttributes_eq_of_read (read_merge Descriptor.kindOf "kind" distinct kind)
    (read_merge (fun v => Descriptor.propertiesOf (Descriptor.collected v)) "properties" distinct
      properties)

/-! ## Searching a copy -/

/-- By what was found, a query is judged the same for an entity that can be written and for one
that might not be, unless the second one is to be written and cannot. -/
theorem verdict_eq_iff {text : String} (shown : Except Fault String) (query : String)
    (found : Except Fault (Option Descriptor)) :
    (found >>= Query.verdict (.ok text) query) = (found >>= Query.verdict shown query) ↔
      found ≠ .ok none ∨ Returns shown := by
  match found, shown with
  | .error _, _ => exact ⟨fun _ => .inl nofun, fun _ => rfl⟩
  | .ok (some _), _ => exact ⟨fun _ => .inl nofun, fun _ => rfl⟩
  | .ok none, .ok shown => exact ⟨fun _ => .inr ⟨shown, rfl⟩, fun _ => rfl⟩
  | .ok none, .error _ =>
    constructor
    · exact nofun
    · rintro (something | ⟨_, written⟩)
      · exact absurd rfl something
      · cases written

/-- An annotation that is met from a subject, and the one that a graph lists for it. -/
structure Noted (p : Program) (x : Subject) (a : Annotation) (b : Graph.Annotation) : Prop where
  reached : p.Reaches x a.type
  distinct : Dictionary.Distinct b.attributes
  noted : p.noted a = .ok b

theorem Noted.type_eq (related : Noted p x a b) : b.type = a.type.qualifiedName :=
  (noted_eq related.noted).2

/-- No attribute of the annotations on a subject is read out twice. -/
def ReadOnce (p : Program) (y : Subject) : Prop :=
  ∀ a ∈ p.present y, ∀ attributes, p.attributesOf a = .ok attributes →
    Dictionary.Distinct attributes

theorem forall₂_listed {y : Subject} {target : Graph.Target}
    (met : ∀ a ∈ p.present y, p.Reaches x a.type) (once : p.ReadOnce y)
    (noted : p.notes y = .ok (g.annotations target)) :
    List.Forall₂ (fun a b => Noted p x a.1 b.1) (p.listed y) (g.listed target) := by
  have listed : (p.listed y).map (·.1) = p.present y := by simp [Program.listed]
  have copied : (g.listed target).map (·.1) = g.annotations target := by simp [Graph.listed]
  have related : List.Forall₂ (Noted p x) (p.present y) (g.annotations target) := by
    have both := (List.forall₂_and_left _ _).2
      ⟨fun a member => And.intro (met a member) (once a member), forall₂_of_mapM noted⟩
    refine both.imp ?_
    rintro a b ⟨⟨reached, distinct⟩, noted⟩
    exact ⟨reached, distinct _ (noted_eq noted).1, noted⟩
  rw [← listed, ← copied, List.forall₂_map_left_iff, List.forall₂_map_right_iff] at related
  exact related

theorem alike_of_copies (copies : Copies p x name g) (c : Settings)
    (named : ∀ t u, p.Reaches x t → p.Reaches x u → t.qualifiedName = u.qualifiedName → t = u)
    (once : ∀ y, p.ReadOnce y) : Search.Alike p.model g.model c (fun a b => Noted p x a.1 b.1) where
  name _ _ related := related.type_eq
  type a b a' b' related related' := by
    change a.1.type = a'.1.type ↔ b.1.type = b'.1.type
    rw [related.type_eq, related'.type_eq]
    exact ⟨congrArg _, named _ _ related.reached related'.reached⟩
  below a b related _ := by
    have copied := copies.type _ related.reached
    rw [← related.type_eq] at copied
    exact forall₂_listed (fun a' member => .onward related.reached member) (once _) copied

/-- A copied annotation gives the descriptor that the annotation itself gives. -/
theorem Copies.read (copies : Copies p x name g) {a : p.Listed} {b : g.Listed}
    (related : Noted p x a.1 b.1) :
    (g.model.attributes b >>= Descriptor.ofAttributes)
      = (p.model.attributes a >>= Descriptor.ofAttributes) := by
  have resolved : p.model.attributes a = .ok (settledIn b.1.attributes) :=
    resolved_eq (noted_eq related.noted).1
  have merged : g.model.attributes b =
      .ok (settledIn (((g.defaults.get? (.text b.1.type)).getD []).merge b.1.attributes)) := rfl
  rw [resolved, merged]
  exact ofAttributes_merge related.distinct (copies.defaults b.1.type)

/-- **A program and a copy of it agree.** In every session, whatever can be seen from a subject,
copied into a graph under qualified names that differ, is described the same, with the same
events.  It is accepted by the same queries, unless nothing is found for a subject that cannot be
written. -/
theorem describe_snapshot {s : Session} (reached : s.Reached) (c : Settings) (x : Subject)
    {types : List Class} (complete : ∀ t, t ∈ types ↔ s.program.Reaches x t)
    (named : ∀ t u, s.program.Reaches x t → s.program.Reaches x u →
      t.qualifiedName = u.qualifiedName → t = u)
    {name : String} {metadataType : Value} {g : Graph}
    (copied : s.program.snapshot x types name metadataType = .ok g) :
    g.model.describe c (.entity (.text name)) = s.program.model.describe c x ∧
      ∀ query, (g.model.accepts c (.entity (.text name)) query).answer =
          (s.program.model.accepts c x query).answer ↔
        query = Query.matchAll ∨ (s.program.model.describe c x).answer ≠ .ok none ∨
          Returns (s.program.shown x) := by
  have copies := copies_snapshot complete named copied
  have once : ∀ y, s.program.ReadOnce y := by
    intro y a member attributes read
    obtain ⟨k, holds⟩ := s.program.exists_carried_of_present member
    exact reached.distinct_of_attributesOf holds read
  have described : g.model.describe c (.entity (.text name)) = s.program.model.describe c x := by
    refine (alike_of_copies copies c named once).describe rfl
      (forall₂_listed (fun a member => .here member) (once x) copies.entity) ?_
    intro a b related _
    exact copies.read related
  refine ⟨described, fun query => ?_⟩
  have written : g.model.shown (.entity (.text name)) =
      .ok (Graph.Target.entity (.text name)).text := rfl
  rw [Model.answer_accepts, Model.answer_accepts, described, written]
  split
  · rename_i all
    exact ⟨fun _ => .inl all, fun _ => rfl⟩
  · rename_i other
    rw [or_iff_right other]
    exact verdict_eq_iff (s.program.shown x) query _

/-! ## When there is a copy -/

theorem Reaches.mem_mentioned (reached : p.Reaches x t) : t ∈ p.mentioned := by
  cases reached with
  | here member => exact p.type_mem_mentioned member
  | onward _ member => exact p.type_mem_mentioned member

/-- There is a copy, complete with every type that is reached, if every annotation that is met
reads out its attributes. -/
theorem exists_snapshot (name : String) (key : metadataType.isKey = true)
    (own : ∀ a ∈ p.present x, ∃ attributes, p.attributesOf a = .ok attributes)
    (met : ∀ t, p.Reaches x t →
      ∀ a ∈ p.present (.type t), ∃ attributes, p.attributesOf a = .ok attributes) :
    ∃ types, (∀ t, t ∈ types ↔ p.Reaches x t) ∧
      ∃ g, p.snapshot x types name metadataType = .ok g := by
  classical
  have notes_of_read : ∀ y, (∀ a ∈ p.present y, ∃ attributes, p.attributesOf a = .ok attributes) →
      ∃ l, p.notes y = .ok l :=
    fun y read => exists_mapM_iff.2 fun a member => exists_map_iff.2 (read a member)
  refine ⟨p.mentioned.filter (p.Reaches x ·), fun t => ?_, ?_⟩
  · simpa using Reaches.mem_mentioned
  · obtain ⟨declared, listed⟩ : ∃ declared,
        (p.mentioned.filter (p.Reaches x ·)).mapM p.notedType = .ok declared := by
      refine exists_mapM_iff.2 fun t member => exists_map_iff.2 (notes_of_read _ (met t ?_))
      simpa using (List.mem_filter.1 member).2
    obtain ⟨carried, noted⟩ := notes_of_read x own
    simp only [snapshot, bind_eq_ok_iff]
    exact ⟨_, declared, listed, carried, noted, if_pos key⟩

end Agreement

/-! ## A function that is described through its selection -/

namespace Selected

open Query

def metadata : Annotation :=
  ⟨.metadata, [(.text "kind", .text "Query"), (.text "properties", .tuple [.text "x=1"])]⟩

def selection : Annotation := ⟨.selection, [(.text "metadata", .text matchAll)]⟩

def function : Subject := .function 7 "f"

/-- The class of selections carries metadata. -/
def described : Session :=
  { Session.initial with program := { initial with
      attached := initialAttached.put Class.selection.key [metadata, .documented] } }

def declared : Session :=
  ⟨described.program.next, Session.builtin, function :: Session.initial.subjects⟩

/-- The new function carries a selection. -/
def session : Session :=
  { declared with program := { declared.program with
      attached := declared.program.attached.put ⟨.inside 7, .function⟩ [selection] } }

theorem reached_session : session.Reached := by
  have known : Subject.type .selection ∈ Session.initial.subjects :=
    List.mem_map_of_mem (a := Definition.selection) (by simp [Session.builtin])
  have made : Definition.metadata.form.make
      [(.text "kind", .text "Query"), (.text "properties", .list [.text "x=1"])] = .ok metadata := rfl
  have accepted : initial.attach (.type .selection) metadata = .ok described.program := rfl
  have first : Session.initial.Next described :=
    .attached (.inr (.inr known)) rfl (by simp [Session.initial, Session.opening, Session.builtin])
      made accepted
  have named : described.program.declareFunction "f" = (declared.program, function) := rfl
  have second : described.Next declared := .function named
  have made_selection : Definition.selection.form.make [] = .ok selection := rfl
  have carries : declared.program.attach function selection = .ok session.program := rfl
  have third : declared.Next session :=
    .attached (.inr (.inr List.mem_cons_self)) rfl (by simp [declared, Session.builtin])
      made_selection carries
  exact .step (.step (.step (.opening .silent) first) second) third

def types : List Class := [.selection, .metadata, .documented, .target]

theorem present_function : session.program.present function = [selection] := rfl

theorem present_selection :
    session.program.present (.type .selection) = [metadata, .documented] := rfl

theorem present_metadata : session.program.present (.type .metadata) =
    [.documented, .restriction [.type, .function]] := rfl

theorem mem_types_iff (t : Class) : t ∈ types ↔ session.program.Reaches function t := by
  constructor
  · have selected : session.program.Reaches function .selection :=
      .here (a := selection) (present_function ▸ List.mem_cons_self)
    have described : session.program.Reaches function .metadata :=
      .onward (a := metadata) selected (present_selection ▸ List.mem_cons_self)
    have documented : session.program.Reaches function .documented :=
      .onward (a := .documented) described (present_metadata ▸ List.mem_cons_self)
    have restricted : session.program.Reaches function .target :=
      .onward (a := .restriction [.type, .function]) described
        (present_metadata ▸ List.mem_cons_of_mem _ List.mem_cons_self)
    intro member
    simp only [types, List.mem_cons, List.not_mem_nil, or_false] at member
    rcases member with rfl | rfl | rfl | rfl
    · exact selected
    · exact described
    · exact documented
    · exact restricted
  · have closed : ∀ t ∈ types, ∀ a ∈ session.program.present (.type t), a.type ∈ types := by
      decide
    intro reached
    induction reached with
    | here member =>
      rw [present_function] at member
      rw [List.mem_singleton.1 member]
      exact List.mem_cons_self
    | onward _ member ih => exact closed _ ih _ member

theorem answer_describe : (session.program.model.describe Settings.default function).answer =
    .ok (some ⟨"Query", [⟨"x", some "1"⟩]⟩) := by
  rw [Model.answer_describe, Search.find, Search.run_eq_of_explores (M := session.program.model)
    (c := Settings.default) (e := function) (.answered rfl (by decide) (.metadata rfl) rfl)]
  rfl

/-- The copy, though it completes another metadata type, gives the same descriptor and accepts
the same queries. -/
theorem describe_copy :
    ∃ g, session.program.snapshot function types "f" (.text "other.Type") = .ok g ∧
      (g.model.describe Settings.default (.entity (.text "f"))).answer =
        .ok (some ⟨"Query", [⟨"x", some "1"⟩]⟩) ∧
      (g.model.accepts Settings.default (.entity (.text "f")) "Query[x=1]").answer = .ok true := by
  have named : ∀ t u, session.program.Reaches function t → session.program.Reaches function u →
      t.qualifiedName = u.qualifiedName → t = u := by
    have apart : ∀ t ∈ types, ∀ u ∈ types, t.qualifiedName = u.qualifiedName → t = u := by decide
    intro t u first second
    exact apart t ((mem_types_iff t).2 first) u ((mem_types_iff u).2 second)
  obtain ⟨g, copied⟩ : ∃ g,
      session.program.snapshot function types "f" (.text "other.Type") = .ok g := ⟨_, rfl⟩
  obtain ⟨described, accepted⟩ :=
    describe_snapshot reached_session Settings.default function mem_types_iff named copied
  refine ⟨g, copied, ?_, ?_⟩
  · rw [described, answer_describe]
  · rw [(accepted _).2 (.inr (.inr ⟨_, rfl⟩)), Model.answer_accepts, answer_describe]
    rfl

end Selected

/-! ## An annotation that cannot be written

A type of annotations with a field in the place of the function by which they are written, and an
annotation of the type that carries nothing. -/

namespace Unwritten

open Session

def fields : Attributes := [(.text writingHook, .whole 5)]

def type : Class where
  number := 7
  name := "Note"
  path := "Note"
  home := "app"
  ancestors := [Class.base.key]
  hasRoom := true
  appearance := .call
  isFixed := false

def definition : Definition := ⟨⟨type, true, some fields, none⟩, [Definition.base.form]⟩

def members : List (String × Subject) :=
  ("__annotations__", .feature .mapping (.type type)) :: recordFeatures (.type type)
    ++ watching type ++ [(writingHook, .value (.whole 5))]

/-- What declaring the type leads to. -/
def program : Program :=
  members.foldl (fun q e => q.bind (.inside 7) e.1 e.2) initial.next

def note : Subject := .object 8 definition fields "Note(__repr__=5)"

def classed : Session :=
  ⟨program, definition :: builtin, .type type :: Session.initial.subjects⟩

def session : Session := ⟨program.next, classed.definitions, note :: classed.subjects⟩

theorem ancestorsOf_eq : ancestorsOf "Note" [.base] = .ok [Definition.base.form] := by
  have merged : mergeOrders [[Class.base], [Class.base]] = some [Class.base] := by
    rw [mergeOrders_of_free (a := Class.base) (by decide), mergeOrders_of_empty (by decide)]
    rfl
  have orders : ([Definition.base].map fun d => d.line.map (·.type)) ++
      [[Definition.base].map Definition.type] = [[Class.base], [Class.base]] := rfl
  simp only [ancestorsOf, orders, merged]
  rfl

theorem declareRecord_eq :
    initial.declareRecord ⟨"Note", "Note", "app"⟩ [.base] fields = .ok (program, definition) := by
  simp only [declareRecord, ancestorsOf_eq]
  rfl

theorem reached_session : session.Reached := by
  have known : ∀ b ∈ [Definition.base], b ∈ Session.initial.definitions := by
    simp [Session.initial, opening, builtin]
  have class_declared : Session.initial.Next classed := .recordClass known declareRecord_eq
  have declared : program.declareObject definition [] none = .ok (program.next, note) := rfl
  have note_declared : classed.Next session := .object List.mem_cons_self declared
  exact .step (.step (.opening .silent) class_declared) note_declared

/-- The copy says that the annotation does not match, which the program fails to say. -/
theorem accepts_copy : session.Reached ∧ (∀ t, ¬ session.program.Reaches note t) ∧
    ∃ g, session.program.snapshot note [] "note" (.text "metamatch.api.MetaData") = .ok g ∧
      (g.model.accepts Settings.default (.entity (.text "note")) "Service").answer = .ok false ∧
      (session.program.model.accepts Settings.default note "Service").answer =
        .error (.notCallable "int") := by
  have nothing : session.program.present note = [] := rfl
  have unreached : ∀ t, ¬ session.program.Reaches note t := by
    intro t reached
    induction reached with
    | here member => exact absurd (nothing ▸ member) List.not_mem_nil
    | onward _ _ ih => exact ih
  have unwritten : session.program.model.shown note = .error (.notCallable "int") := rfl
  refine ⟨reached_session, unreached, _, rfl, ?_, ?_⟩
  · rw [Model.answer_accepts, Search.answer_describe_of_bare _ rfl rfl]
    rfl
  · rw [Model.answer_accepts, Search.answer_describe_of_bare _ rfl rfl, unwritten]
    rfl

end Unwritten

end Hallmark.Program
