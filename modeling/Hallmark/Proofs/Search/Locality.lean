/-
# Hallmark.Proofs.Search.Locality -- what of a graph can influence a match

Of the annotations of an entity, and of those on the declarations of ordinary types, a
search reads the types; of metadata, a descriptor reads the kind and the properties.  That
is all: two graphs that agree on it (`Agrees`) describe the entity the same, report the same
on the way and match it against the same queries.

So everything else can be left out (`Graph.visible`): the other entities, the declarations of
reserved types and of the metadata type, the attributes of all annotations but metadata, and
the defaults of all types but the metadata type.  The one exception is the entity itself,
which may be a type of any name.
-/
import Hallmark.Graph.Basic
import Hallmark.Proofs.Search.Likeness
import Hallmark.Proofs.Search.Role

namespace Hallmark

set_option autoImplicit false

open Document

/-- The kind and the properties are all that a descriptor is made of. -/
theorem Descriptor.ofAttributes_congr {attributes others : Attributes}
    (kind : (attributes.get? (.text "kind")).getD .none = (others.get? (.text "kind")).getD .none)
    (properties : (attributes.get? (.text "properties")).getD .none
      = (others.get? (.text "properties")).getD .none) :
    ofAttributes attributes = ofAttributes others := by
  rw [ofAttributes, kind, properties, ofAttributes]

namespace Graph

/-- Annotations of one type in two graphs; of metadata, the kind and the properties are the
same as well. -/
structure Resembles (g h : Graph) (c : Settings) (a b : Annotation) : Prop where
  type : b.type = a.type
  kind : c.metadataType = .text a.type →
    ((h.resolve b).get? (.text "kind")).getD .none = ((g.resolve a).get? (.text "kind")).getD .none
  properties : c.metadataType = .text a.type →
    ((h.resolve b).get? (.text "properties")).getD .none
      = ((g.resolve a).get? (.text "properties")).getD .none

/-- What a search from `x` may look at: `x` itself and the declarations of ordinary types. -/
def InSight (c : Settings) (x t : Target) : Prop :=
  t = x ∨ ∃ name, t = .type (.text name) ∧ c.role name = .ok .ordinary

/-- Two graphs list the same in sight of `x`. -/
def Agrees (g h : Graph) (c : Settings) (x : Target) : Prop :=
  ∀ t, InSight c x t → List.Forall₂ (Resembles g h c) (g.annotations t) (h.annotations t)

variable {g h : Graph} {c : Settings} {x t : Target}

theorem forall₂_listed_of_resembles
    (same : List.Forall₂ (Resembles g h c) (g.annotations t) (h.annotations t)) :
    List.Forall₂ (fun a b => Resembles g h c a.1 b.1) (g.listed t) (h.listed t) := by
  rw [← map_val_listed, ← map_val_listed, List.forall₂_map_left_iff,
    List.forall₂_map_right_iff] at same
  exact same

theorem Agrees.alike (agrees : Agrees g h c x) :
    Search.Alike g.model h.model c (fun a b => Resembles g h c a.1 b.1) where
  name _ _ related := related.type
  type a b a' b' related related' := by
    change a.1.type = a'.1.type ↔ b.1.type = b'.1.type
    rw [related.type, related'.type]
  below a b related ordinary := by
    change List.Forall₂ _ (g.listed (.type (.text a.1.type))) (h.listed (.type (.text b.1.type)))
    rw [related.type]
    exact forall₂_listed_of_resembles (agrees _ (.inr ⟨a.1.type, rfl, ordinary⟩))

theorem Agrees.describe_eq (agrees : Agrees g h c x) :
    h.model.describe c x = g.model.describe c x := by
  refine agrees.alike.describe rfl (forall₂_listed_of_resembles (agrees x (.inl rfl))) ?_
  intro a b related metadata
  have named : c.metadataType = .text a.1.type := Settings.role_eq_metadata_iff.1 metadata
  exact Descriptor.ofAttributes_congr (related.kind named) (related.properties named)

/-! ## Leaving out the rest -/

/-- The annotations with the attributes of metadata only. -/
def bared (c : Settings) (l : List Annotation) : List Annotation :=
  l.map fun a => if c.metadataType == .text a.type then a else ⟨a.type, []⟩

def Target.isEntity (key : Value) : Target → Bool
  | .entity name => key == name
  | _ => false

def Target.isType (key : Value) : Target → Bool
  | .type name => key == name
  | _ => false

/-- Whether a key names an ordinary type. -/
def isOrdinary (c : Settings) : Value → Bool
  | .text name =>
    match c.role name with
    | .ok .ordinary => true
    | _ => false
  | _ => false

/-- What is left of a graph when all that a search from `x` cannot see is left out. -/
def visible (g : Graph) (c : Settings) (x : Target) : Graph where
  entities := (g.entities.filter fun e => x.isEntity e.1).map fun e => (e.1, bared c e.2)
  types := (g.types.filter fun e => x.isType e.1 || isOrdinary c e.1).map fun e => (e.1, bared c e.2)
  defaults := g.defaults.filter fun e => e.1 == c.metadataType

variable (g)

theorem getD_map_bared (l : Option (List Annotation)) :
    (l.map (bared c)).getD [] = bared c (l.getD []) := by
  cases l with
  | none => rfl
  | some l => rfl

/-- Nothing in sight is left out. -/
theorem annotations_visible (inSight : InSight c x t) :
    (g.visible c x).annotations t = bared c (g.annotations t) := by
  cases t with
  | other v => rfl
  | entity name =>
    have kept : ∀ e ∈ g.entities, (e.1 == name) = true → x.isEntity e.1 = true := by
      rcases inSight with rfl | ⟨_, other, -⟩
      · exact fun e _ same => same
      · cases other
    rw [annotations, visible, Dictionary.get?_map, Dictionary.get?_filter _ kept, getD_map_bared]
    rfl
  | type name =>
    have kept : ∀ e ∈ g.types, (e.1 == name) = true →
        (x.isType e.1 || isOrdinary c e.1) = true := by
      intro e _ same
      rcases inSight with rfl | ⟨n, here, ordinary⟩
      · rw [Target.isType, same, Bool.true_or]
      · cases here
        rw [Value.beq_text_iff.1 same, isOrdinary, ordinary, Bool.or_true]
    rw [annotations, visible, Dictionary.get?_map, Dictionary.get?_filter _ kept, getD_map_bared]
    rfl

/-- Metadata keeps its attributes and its defaults. -/
theorem resolve_visible {a : Annotation} (metadata : c.metadataType = .text a.type) :
    (g.visible c x).resolve a = g.resolve a := by
  have kept : ∀ e ∈ g.defaults, (e.1 == Value.text a.type) = true → (e.1 == c.metadataType) = true := by
    intro e _ same
    rw [metadata, same]
  rw [resolve, visible, Dictionary.get?_filter _ kept, resolve]

theorem agrees_visible : Agrees g (g.visible c x) c x := by
  intro t inSight
  rw [g.annotations_visible inSight, bared, List.forall₂_map_right_iff, List.forall₂_same]
  intro a _
  by_cases metadata : c.metadataType = .text a.type
  · rw [if_pos (Value.beq_text_iff.2 metadata)]
    exact ⟨rfl, fun _ => by rw [g.resolve_visible metadata], fun _ => by rw [g.resolve_visible metadata]⟩
  · rw [if_neg (fun same => metadata (Value.beq_text_iff.1 same))]
    exact ⟨rfl, fun named => absurd named metadata, fun named => absurd named metadata⟩

/-- **A match is local.** Whatever agrees with a graph in sight of an entity describes the
entity the same, with the same events, and matches it against the same queries; so does the
graph itself when all that is not in sight is left out. -/
theorem describe_local (c : Settings) (x : Target) :
    (∀ h : Graph, Agrees g h c x →
      h.model.describe c x = g.model.describe c x ∧
        ∀ query, h.model.accepts c x query = g.model.accepts c x query) ∧
    (g.visible c x).model.describe c x = g.model.describe c x ∧
      ∀ query, (g.visible c x).model.accepts c x query = g.model.accepts c x query := by
  have agreeing : ∀ h : Graph, Agrees g h c x →
      h.model.describe c x = g.model.describe c x ∧
        ∀ query, h.model.accepts c x query = g.model.accepts c x query := by
    intro h agrees
    have described := agrees.describe_eq
    exact ⟨described, Search.accepts_eq_of_describe_eq described rfl⟩
  exact ⟨agreeing, agreeing _ g.agrees_visible⟩

/-! ## Out of sight -/

namespace Hidden

/-- The metadata type has a reserved name. -/
def settings : Settings :=
  { Settings.default with metadataType := .text "r.M", reserved := [.text "r."] }

def entity : Target := .entity (.text "e")

def graph : Graph where
  entities := [(.text "e", [⟨"r.X", []⟩, ⟨"t.A", []⟩])]
  types := [(.text "r.X", [⟨"r.M", [(.text "kind", .text "Hidden")]⟩]),
    (.text "t.A", [⟨"t.A", []⟩, ⟨"r.M", [(.text "kind", .text "Shown")]⟩])]
  defaults := []

/-- The same in sight of the entity: the metadata has its kind by default, and all that is
added stands on another entity, on the metadata type or on annotations that are no metadata. -/
def edited : Graph where
  entities := [(.text "f", [⟨"r.M", []⟩]),
    (.text "e", [⟨"r.X", [(.text "note", .none)]⟩, ⟨"t.A", [(.text "kind", .text "Mine")]⟩])]
  types := [(.text "t.A", [⟨"t.A", []⟩, ⟨"r.M", []⟩]), (.text "r.M", [⟨"t.A", []⟩])]
  defaults := [(.text "r.M", [(.text "kind", .text "Shown")]),
    (.text "t.A", [(.text "kind", .text "Base")])]

theorem resembles_of_other {a b : Annotation} (type : b.type = a.type) (other : a.type ≠ "r.M") :
    Resembles graph edited settings a b where
  type := type
  kind named := absurd (Value.text.inj named).symm other
  properties named := absurd (Value.text.inj named).symm other

theorem agrees_edited : Agrees graph edited settings entity := by
  rintro t (rfl | ⟨name, rfl, ordinary⟩)
  · exact .cons (resembles_of_other rfl (by decide))
      (.cons (resembles_of_other rfl (by decide)) .nil)
  · by_cases declared : name = "t.A"
    · subst declared
      exact .cons (resembles_of_other rfl (by decide))
        (.cons ⟨rfl, fun _ => rfl, fun _ => rfl⟩ .nil)
    · have not_hidden : name ≠ "r.X" := by
        rintro rfl
        cases ordinary
      have not_metadata : name ≠ "r.M" := by
        rintro rfl
        cases ordinary
      have nothing : graph.annotations (.type (.text name)) = [] := by
        simp [annotations, graph, Dictionary.get?, Ne.symm declared, Ne.symm not_hidden]
      have nothing_edited : edited.annotations (.type (.text name)) = [] := by
        simp [annotations, edited, Dictionary.get?, Ne.symm declared, Ne.symm not_metadata]
      rw [nothing, nothing_edited]
      exact .nil

theorem answer_describe : (graph.model.describe settings entity).answer = .ok (some ⟨"Shown", []⟩) := by
  rw [Model.answer_describe, Search.find, Search.run_eq_of_explores (M := graph.model)
    (c := settings) (e := entity)
    (.reserved rfl (.answered rfl (by decide)
      (.revisited rfl (by decide) (.metadata rfl)) rfl))]
  rfl

/-- What was hidden on a reserved type stays hidden, and the edits change no match. -/
theorem accepts_edited :
    Agrees graph edited settings entity ∧
      (edited.model.accepts settings entity "Shown").answer = .ok true ∧
      (edited.model.accepts settings entity "Hidden").answer = .ok false := by
  obtain ⟨-, same⟩ := (graph.describe_local settings entity).1 edited agrees_edited
  refine ⟨agrees_edited, ?_, ?_⟩
  · rw [same, Model.answer_accepts, answer_describe]
    rfl
  · rw [same, Model.answer_accepts, answer_describe]
    rfl

end Hidden

end Graph

end Hallmark
