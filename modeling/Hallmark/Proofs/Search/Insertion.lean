/-
# Hallmark.Proofs.Search.Insertion -- putting in an annotation that leads nowhere

An annotation that is no metadata, and that is of a reserved type or of one from which no
metadata can be reached, may be put in anywhere in a graph: on an entity or on a type, in
front of or behind whatever is listed there.  Every search finds what it found before, under
every limit, although it may enter more types on the way and report the limit where it did
not.  Should the name of the type be one that cannot be tested, because a prefix is no text,
then a search that comes to it fails with just that fault.
-/
import Mathlib.Data.List.InsertIdx
import Hallmark.Graph.Basic
import Hallmark.Proofs.Search.Barren

namespace Hallmark

set_option autoImplicit false

open Document

namespace Search

variable {α α' β β' : Type} {R : α → β → Prop} {P : β → Prop}

theorem Padded.refl (P : α → Prop) (l : List α) : Padded Eq P l l := by
  induction l with
  | nil => exact .nil
  | cons a rest ih => exact .keep rfl ih

theorem padded_insertIdx (l : List α) (i : Nat) (b : α) : Padded Eq (· = b) l (l.insertIdx i b) := by
  induction l generalizing i with
  | nil =>
    cases i with
    | zero => exact .pad rfl .nil
    | succ i => exact .nil
  | cons a rest ih =>
    cases i with
    | zero => exact .pad rfl (.refl _ _)
    | succ i =>
      rw [List.insertIdx_succ_cons]
      exact .keep rfl (ih i)

theorem Padded.of_map {f : α' → α} {g : β' → β} {l : List α'} {m : List β'}
    (padded : Padded R P (l.map f) (m.map g)) :
    Padded (fun a b => R (f a) (g b)) (fun b => P (g b)) l m := by
  generalize left : l.map f = l' at padded
  generalize right : m.map g = m' at padded
  induction padded generalizing l m with
  | nil =>
    obtain rfl := List.map_eq_nil_iff.1 left
    obtain rfl := List.map_eq_nil_iff.1 right
    exact .nil
  | keep related _ ih =>
    obtain ⟨a, l, rfl, rfl, here⟩ := List.map_eq_cons_iff.1 left
    obtain ⟨b, m, rfl, rfl, there⟩ := List.map_eq_cons_iff.1 right
    exact .keep related (ih here there)
  | pad added _ ih =>
    obtain ⟨b, m, rfl, rfl, there⟩ := List.map_eq_cons_iff.1 right
    exact .pad added (ih left there)

end Search

namespace Graph

open Search

/-- The graph with an annotation put in at a position of what is listed for an entity or on
a type. -/
def insert (g : Graph) (i : Nat) (b : Annotation) : Target → Graph
  | .entity name =>
    { g with entities := g.entities.put name (((g.entities.get? name).getD []).insertIdx i b) }
  | .type name =>
    { g with types := g.types.put name (((g.types.get? name).getD []).insertIdx i b) }
  | .other _ => g

variable {g : Graph} {c : Settings} {n : Target} {i : Nat} {b : Annotation}

theorem padded_put (d : Dictionary Value (List Annotation)) (name other : Value) :
    Padded Eq (· = b) ((d.get? other).getD [])
      (((d.put name (((d.get? name).getD []).insertIdx i b)).get? other).getD []) := by
  rcases d.get?_put_cases name other (((d.get? name).getD []).insertIdx i b) with
    same | ⟨found, shared⟩
  · rw [same]
    exact .refl _ _
  · rw [found, shared]
    exact padded_insertIdx _ i b

theorem padded_annotations (t : Target) :
    Padded Eq (· = b) (g.annotations t) ((g.insert i b n).annotations t) := by
  cases n with
  | other v => exact .refl _ _
  | entity name =>
    cases t with
    | entity other => exact padded_put g.entities name other
    | type _ => exact .refl _ _
    | other _ => exact .refl _ _
  | type name =>
    cases t with
    | entity _ => exact .refl _ _
    | type other => exact padded_put g.types name other
    | other _ => exact .refl _ _

theorem padded_listed (t : Target) :
    Padded (fun (a : g.Listed) (a' : (g.insert i b n).Listed) => a.1 = a'.1) (fun a' => a'.1 = b)
      (g.listed t) ((g.insert i b n).listed t) := by
  have padded := padded_annotations (g := g) (n := n) (i := i) (b := b) t
  rw [← map_val_listed, ← map_val_listed] at padded
  exact padded.of_map

theorem widens_insert (other : c.metadataType ≠ .text b.type)
    (dead : c.isReserved b.type = .ok true ∨
      Barren (g.insert i b n).model c ((g.insert i b n).model.annotationsOn b.type)) :
    Widens g.model (g.insert i b n).model c (fun a a' => a.1 = a'.1) (fun a' => a'.1 = b) where
  name a a' same := congrArg (·.type) same.symm
  type a a' d d' same same' := by
    change a.1.type = d.1.type ↔ a'.1.type = d'.1.type
    rw [same, same']
  below a a' same _ := by
    change Padded _ _ (g.listed (.type (.text a.1.type)))
      ((g.insert i b n).listed (.type (.text a'.1.type)))
    rw [same]
    exact padded_listed _
  barren a' added := by
    have typed : (g.insert i b n).model.typeOf a' = b.type := congrArg (·.type) added
    intro found leads
    cases leads with
    | here member metadata =>
      obtain rfl := List.mem_singleton.1 member
      rw [typed] at metadata
      exact other (Settings.role_eq_metadata_iff.1 metadata)
    | through member unreserved below =>
      obtain rfl := List.mem_singleton.1 member
      rw [typed] at unreserved below
      rcases dead with reserved | barren
      · cases reserved.symm.trans unreserved
      · exact barren found below

/-- The annotation that a search finds. -/
def nearest (g : Graph) (c : Settings) (x : Target) : Except Fault (Option Annotation) :=
  Option.map (·.1) <$> (Search.find g.model c x).answer

/-- Searches that end on the same annotation, or with nothing, answer the same. -/
theorem nearest_eq_of_ends {h : Graph} {x : Target}
    (ends : Ends g.model c (fun a b => a.1 = b.1) (run g.model c (start g.model x)).answer
      (run h.model c (start h.model x)).answer) : h.nearest c x = g.nearest c x := by
  rw [nearest, nearest, Search.find, Search.find, Exploration.result, Exploration.result]
  generalize (run g.model c (start g.model x)).answer = r at ends
  generalize (run h.model c (start h.model x)).answer = s at ends
  cases ends with
  | nothing => rfl
  | fault f => rfl
  | @found a d related _ =>
    change Except.ok (some d.1) = Except.ok (some a.1)
    rw [related]

/-- **What leads nowhere changes nothing that is found**: put in anywhere, under any limit.
Only a name that cannot be tested may make a search fail, with the fault of the test. -/
theorem nearest_insert (g : Graph) (c : Settings) (n : Target) (i : Nat) (b : Annotation)
    (other : c.metadataType ≠ .text b.type)
    (dead : c.isReserved b.type = .ok true ∨
      ∀ a, ¬ Leads (g.insert i b n).model c ((g.insert i b n).model.annotationsOn b.type) a)
    (x : Target) :
    match c.isReserved b.type with
    | .ok _ => (g.insert i b n).nearest c x = g.nearest c x
    | .error f => (g.insert i b n).nearest c x = g.nearest c x ∨
      (g.insert i b n).nearest c x = .error f := by
  have alike := (widens_insert other dead).run (padded_listed x)
  cases alike with
  | same ends _ =>
    have same := nearest_eq_of_ends ends
    split
    · exact same
    · exact .inl same
  | @fault a' f added faulty ended =>
    have failed : c.isReserved b.type = .error f := by
      rw [← added]
      exact Settings.isReserved_of_fault faulty
    rw [failed]
    refine .inr ?_
    rw [nearest, Search.find, Exploration.result, ended]
    rfl

/-! ## A ring that leads nowhere -/

namespace Ringed

/-- `t.B` leads to metadata at once, and `t.A` and `t.D` lead to each other. -/
def graph : Graph where
  entities := [(.text "e", [⟨"t.B", []⟩])]
  types := [(.text "t.B", [⟨Settings.defaultMetadataType, [(.text "kind", .text "Near")]⟩]),
    (.text "t.A", [⟨"t.D", []⟩]), (.text "t.D", [⟨"t.A", []⟩])]
  defaults := []

/-- One type on a path at most, so that a search of `t.A` comes to the limit. -/
def one : Settings := { Settings.default with depth := ⟨1, .whole 1, Nat.one_pos⟩ }

def entity : Target := .entity (.text "e")

def ringed : Graph := graph.insert 0 ⟨"t.A", []⟩ entity

theorem barren_ring : Barren ringed.model one (ringed.model.annotationsOn "t.A") := by
  have around : ∀ t ∈ ["t.A", "t.D"],
      ringed.model.role one t ≠ .ok .metadata ∧
        ∀ b ∈ ringed.model.annotationsOn t, ringed.model.typeOf b ∈ ["t.A", "t.D"] := by
    intro t member
    simp only [List.mem_cons, List.not_mem_nil, or_false] at member
    rcases member with rfl | rfl
    · exact ⟨nofun, by decide⟩
    · exact ⟨nofun, by decide⟩
  exact barren_of_closed (S := fun b => ringed.model.typeOf b ∈ ["t.A", "t.D"]) (by decide)
    fun b inside => around _ inside

/-- Put in front, the ring is searched first, up to the limit, and then what was found before. -/
theorem nearest_ringed :
    Barren ringed.model one (ringed.model.annotationsOn "t.A") ∧
      ringed.nearest one entity =
        .ok (some ⟨Settings.defaultMetadataType, [(.text "kind", .text "Near")]⟩) := by
  have other : one.metadataType ≠ .text "t.A" :=
    fun same => absurd (Value.text.inj same) (by decide)
  have same : ringed.nearest one entity = graph.nearest one entity :=
    nearest_insert graph one entity 0 ⟨"t.A", []⟩ other (.inr barren_ring) entity
  refine ⟨barren_ring, ?_⟩
  rw [same, nearest, Search.find, run_eq_of_explores (M := graph.model) (c := one) (e := entity)
    (.answered rfl (by decide) (.metadata rfl) rfl)]
  rfl

end Ringed

end Graph

end Hallmark
