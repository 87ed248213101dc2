/-
# Hallmark.Proofs.Program.Metadata -- metadata in a program and in a graph

In a program metadata is made from the values that are given for its kind and its properties, and
its properties are completed to a tuple.  In a graph the same values can be written down as they
are given.  They are completed as late as a descriptor is built from them: an item that stands
alone is then walked through as the tuple of it, and whatever is empty has no items either way
(`propertiesOf_tupleOf`).

A value that is not given is the empty text or the empty tuple in a program.  In a graph it is
that for the metadata type, and nothing at all for every other type, which is read as the same.
So both give the same descriptor, or fail in the same way (`describe_metadata`).
-/
import Hallmark.Proofs.Graph.Resolution
import Hallmark.Proofs.Matching.Answer
import Hallmark.Proofs.Program.Snapshot
import Hallmark.Proofs.Search.Barren

namespace Hallmark

set_option autoImplicit false

open Document

/-! ## Properties as they are walked through -/

theorem Document.Value.isTrue_of_items {v : Value} {items : List Value}
    (walked : v.items = .ok items) (some : items ≠ []) : v.isTrue = true := by
  cases v with
  | text | octets | list | tuple | set | map =>
    cases walked
    simpa [isTrue] using some
  | knot => rfl
  | _ => cases walked

/-- Whatever can be walked through has the properties that its items are, be there none. -/
theorem Descriptor.propertiesOf_of_items {v : Value} {items : List Value}
    (walked : v.items = .ok items) : propertiesOf v = items.mapM propertyOf := by
  rw [propertiesOf, walked]
  cases items with
  | nil => exact ite_self _
  | cons first rest =>
    rw [if_pos (Value.isTrue_of_items walked (List.cons_ne_nil _ _))]
    rfl

namespace Program

open Descriptor

variable {v w : Value}

theorem items_of_list? {items : List Value} (held : Graph.list? v = some items) :
    v.items = .ok items := by
  unfold Graph.list? at held
  unfold Value.items Value.items?
  split at held
  · rename_i opened
    cases held
    rw [opened]
  · cases held

/-- The tuple of a lone item or of the items has the properties that are read without it. -/
theorem propertiesOf_tupleOf (whole : tupleOf v = .ok w) :
    propertiesOf (collected w.settled) = propertiesOf (collected v.settled) := by
  unfold tupleOf at whole
  split at whole
  · cases whole
    rfl
  · rename_i several
    obtain ⟨items, walked, rfl⟩ := map_eq_ok_iff.1 whole
    have completed : propertiesOf (.tuple items) = items.mapM propertyOf :=
      propertiesOf_of_items rfl
    refine completed.trans ?_
    rw [Graph.settled_eq]
    cases held : Graph.list? v with
    | some listed =>
      cases walked.symm.trans (items_of_list? held)
      exact completed.symm
    | none =>
      have alone : collected v = v := by
        unfold collected
        split
        · exact absurd rfl (several _)
        · rfl
      exact (alone ▸ propertiesOf_of_items walked).symm

/-! ## What is made and what is written down -/

variable {given defaults : Attributes} {a : Annotation}

/-- Metadata that is made has what is given, and its properties as a tuple. -/
theorem made_metadata (made : Definition.metadata.form.make given = .ok a) :
    ∃ v w, (Graph.metadataDefaults.merge given).get? (.text "properties") = some v ∧
      tupleOf v = .ok w ∧
      a.attributes = (Graph.metadataDefaults.merge given).put (.text "properties") w := by
  simp only [Form.make, bind_eq_ok_iff] at made
  obtain ⟨-, -, -, -, made⟩ := made
  obtain ⟨completed, applied, rfl⟩ : ∃ completed,
      Completion.properties.apply (Graph.metadataDefaults.merge given) = .ok completed ∧
        Annotation.mk .metadata completed = a := by
    obtain ⟨completed, applied, returned⟩ := bind_eq_ok_iff.1 made
    exact ⟨completed, applied, Except.ok.inj returned⟩
  unfold Completion.apply at applied
  split at applied
  · -- there is a default, so the field is there
    rename_i lacking
    obtain ⟨found, -, merged⟩ :=
      Dictionary.exists_get?_merge (Value.sharp_text "properties") given
    have nothing : found.or (some (Value.tuple [])) = none := (merged _).symm.trans lacking
    simp at nothing
  · rename_i v held
    obtain ⟨w, whole, checked⟩ := bind_eq_ok_iff.1 applied
    rw [mapError_eq_ok_iff] at whole
    cases checked
    exact ⟨v, w, held, whole, rfl⟩

/-- The defaults of a graph hold for a key what those of metadata hold, or nothing. -/
def Blank (defaults : Attributes) (key : String) : Prop :=
  defaults.get? (.text key) = none ∨
    defaults.get? (.text key) = Graph.metadataDefaults.get? (.text key)

theorem get?_merge_of_blank {key : String}
    (blank : given.get? (.text key) = none → Blank defaults key) :
    (defaults.merge given).get? (.text key) = (Graph.metadataDefaults.merge given).get? (.text key) ∨
    ((defaults.merge given).get? (.text key) = none ∧
      (Graph.metadataDefaults.merge given).get? (.text key) =
        Graph.metadataDefaults.get? (.text key)) := by
  obtain ⟨found, lacking, merged⟩ := Dictionary.exists_get?_merge (Value.sharp_text key) given
  rw [merged, merged]
  cases found with
  | some v => exact .inl rfl
  | none =>
    rcases blank (lacking.1 rfl) with nothing | same
    · exact .inr ⟨nothing, rfl⟩
    · exact .inl same

theorem ofAttributes_made (made : Definition.metadata.form.make given = .ok a)
    (blank : ∀ key ∈ ["kind", "properties"], given.get? (.text key) = none → Blank defaults key) :
    ofAttributes (settledIn (defaults.merge given)) = ofAttributes (settledIn a.attributes) := by
  obtain ⟨v, w, held, whole, attributes⟩ := made_metadata made
  have kind : a.attributes.get? (.text "kind")
      = (Graph.metadataDefaults.merge given).get? (.text "kind") := by
    rw [attributes, Dictionary.get?_put_sharp (Value.sharp_text _)]
    rfl
  have properties : a.attributes.get? (.text "properties") = some w := by
    rw [attributes, Dictionary.get?_put_sharp (Value.sharp_text _)]
    rfl
  apply ofAttributes_eq_of_read
  · rw [Dictionary.get?_map, Dictionary.get?_map, kind]
    rcases get?_merge_of_blank (blank "kind" (by simp)) with same | ⟨nothing, lacking⟩
    · rw [same]
    · rw [nothing, lacking]
      rfl
  · rw [Dictionary.get?_map, Dictionary.get?_map, properties]
    rcases get?_merge_of_blank (blank "properties" (by simp)) with same | ⟨nothing, lacking⟩
    · rw [same, held]
      exact (propertiesOf_tupleOf whole).symm
    · rw [nothing]
      cases held.symm.trans lacking
      cases whole
      rfl

/-! ## Both models -/

section Models

variable {p : Program} {entities types : Dictionary Value (List Graph.Annotation)}
  {declared : Dictionary Value Attributes} {metadataType : Value} {g : Graph} {e : Graph.Target}

/-- Whatever the metadata type of a graph is, only what is declared is no default of metadata. -/
theorem blank_defaultsOf {type key : String}
    (built : Graph.complete entities types declared metadataType = .ok g)
    (undeclared : ((declared.get? (.text type)).getD []).get? (.text key) = none) :
    Blank (g.defaultsOf type) key := by
  by_cases metadata : metadataType = .text type
  · subst metadata
    obtain ⟨found, lacking, merged⟩ := Dictionary.exists_get?_merge (Value.sharp_text key)
      ((declared.get? (.text type)).getD [])
    right
    rw [Graph.defaultsOf_metadataType built, merged, lacking.2 undeclared]
    rfl
  · rw [Blank, Graph.defaultsOf_of_ne built metadata]
    exact .inl undeclared

/-- What is listed anywhere is listed under a name that can be looked up. -/
theorem lookUp_of_listed {b : g.Listed} (member : b ∈ g.listed e) : g.model.lookUp e = .ok () := by
  have carried : b.1 ∈ g.annotations e := g.map_val_listed e ▸ List.mem_map_of_mem member
  have isKey : ∀ {d : Dictionary Value (List Graph.Annotation)} {name : Value},
      b.1 ∈ (d.get? name).getD [] → name.isKey = true := by
    intro d name listed
    unfold Dictionary.get? at listed
    cases found : d.find? (·.1 == name) with
    | none => simp [found] at listed
    | some entry =>
      have same := List.find?_some found
      exact (Value.alike_of_same entry.1 name same).symm.isKey
  cases e with
  | entity name => exact if_pos (isKey carried)
  | type name => exact if_pos (isKey carried)
  | other v => rfl

/-- **Metadata is described alike by a program and by a graph.**  If it is made from some values,
its descriptor in a program is that in any graph which lists it with the same values, whatever
metadata type the graph completes, as long as the graph declares no default for what is not given.
Only metadata for which something else has taken the place of the function that reads out its
attributes is described by what that gives, and not at all if that fails. -/
theorem describe_metadata {x : Subject} {a : p.Listed} {given : Attributes} {c : Settings}
    (made : Definition.metadata.form.make given = .ok a.1)
    (carried : Search.Foremost p.model c x a)
    (built : Graph.complete entities types declared metadataType = .ok g) {b : g.Listed}
    {c' : Settings} (raw : b.1.attributes = given) (listed : Search.Foremost g.model c' e b)
    (undeclared : ∀ key ∈ ["kind", "properties"], given.get? (.text key) = none →
      ((declared.get? (.text b.1.type)).getD []).get? (.text key) = none) :
    (g.model.describe c' e).answer = some <$> ofAttributes (settledIn a.1.attributes) ∧
    (p.attributesOf a.1 = .ok a.1.attributes →
      (p.model.describe c x).answer = (g.model.describe c' e).answer) ∧
    (∀ attributes, p.attributesOf a.1 = .ok attributes →
      (p.model.describe c x).answer = some <$> ofAttributes (settledIn attributes)) ∧
    ∀ f, p.attributesOf a.1 = .error f → (p.model.describe c x).answer = .error f := by
  have graph : (g.model.describe c' e).answer = some <$> ofAttributes (settledIn a.1.attributes) := by
    have resolved : (g.model.describe c' e).answer =
        some <$> ofAttributes (settledIn ((g.defaultsOf b.1.type).merge b.1.attributes)) := by
      rw [Model.answer_describe, lookUp_of_listed listed.mem, listed.find]
      rfl
    have same := ofAttributes_made made fun key named lacking =>
      blank_defaultsOf built (undeclared key named lacking)
    rw [resolved, raw, same]
  have program : (p.model.describe c x).answer =
      some <$> (p.resolved a.1 >>= ofAttributes) := by
    rw [Model.answer_describe, carried.find]
    rfl
  have told : ∀ attributes, p.attributesOf a.1 = .ok attributes →
      (p.model.describe c x).answer = some <$> ofAttributes (settledIn attributes) := by
    intro attributes read
    rw [program, resolved_eq read]
    rfl
  refine ⟨graph, fun read => ?_, told, fun f fails => ?_⟩
  · rw [graph, told _ read]
  · rw [program, Program.resolved, fails]
    rfl

end Models

/-! ## A function with metadata without a kind, and a graph that lists it -/

namespace Unnamed

def properties : Attributes :=
  [(.text "properties", .map [(.text "x=1", .none), (.text "flag", .truth true)])]

def metadata : Annotation :=
  ⟨.metadata, [(.text "kind", .text ""), (.text "properties", .tuple [.text "x=1", .text "flag"])]⟩

def function : Subject := .function 7 "f"

def program : Program :=
  { initial.next with attached := initialAttached.put ⟨.inside 7, .function⟩ [metadata] }

/-- The metadata stands behind an annotation that leads nowhere, and its type is not the one that
the graph completes. -/
def graph : Graph where
  entities := [(.text "f", [⟨"m.Note", []⟩, ⟨"m.Tag", properties⟩])]
  types := []
  defaults := [(.text "m.Tag", [(.text "properties", .text "old")]),
    (.text "other.Type", Graph.metadataDefaults)]

def settings : Settings := { Settings.default with metadataType := .text "m.Tag" }

def note : graph.Listed := ⟨⟨"m.Note", []⟩, by decide⟩

def tag : graph.Listed := ⟨⟨"m.Tag", properties⟩, by decide⟩

theorem foremost_metadata : Search.Foremost program.model Settings.default function
    ⟨metadata, by decide⟩ :=
  ⟨rfl, [], [], rfl, nofun⟩

theorem foremost_tag :
    Search.Foremost graph.model settings (.entity (.text "f")) tag := by
  refine ⟨rfl, [note], [], rfl, List.forall_mem_cons.2 ⟨.inr ⟨rfl, fun found leads => ?_⟩, nofun⟩⟩
  cases leads with
  | here member => cases member
  | through member => cases member

theorem describe_unnamed :
    initial.next.attach function metadata = .ok program ∧
    (graph.model.describe settings (.entity (.text "f"))).answer =
      .ok (some ⟨"", [⟨"x", some "1"⟩, ⟨"flag", none⟩]⟩) ∧
    (program.model.describe Settings.default function).answer =
      (graph.model.describe settings (.entity (.text "f"))).answer := by
  have made : Definition.metadata.form.make properties = .ok metadata := rfl
  have built : Graph.complete graph.entities graph.types
      [(.text "m.Tag", [(.text "properties", .text "old")])] (.text "other.Type") = .ok graph := rfl
  have undeclared : ∀ key ∈ ["kind", "properties"],
      Dictionary.get? properties (.text key) = none →
        Dictionary.get? [(Value.text "properties", Value.text "old")] (.text key) = none := by
    decide
  obtain ⟨described, same, -⟩ :=
    describe_metadata made foremost_metadata built rfl foremost_tag undeclared
  exact ⟨rfl, described, same rfl⟩

end Unnamed

end Program

end Hallmark
