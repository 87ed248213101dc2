/-
# Hallmark.Proofs.Query.Spelling -- descriptors and the texts of their properties

A text is read as a property by the first `=` in it, and a property is written with `=` between
its name and its value.  So every text is how the property that is read from it is written, and
the properties that are read at all are those without `=` in their names
(`Property.ofText_eq_iff`).

All properties of a descriptor that is built are read from texts (`Built.isRead`).  So it is built
again from its own kind and the texts of its properties, and the descriptors that are built are
those of which this is true (`Descriptor.built_iff_built_again`).
-/
import Hallmark.Descriptor

namespace Hallmark

set_option autoImplicit false

open Document Query

/-- A property is read from a text exactly if that is how it is written, and its name has no `=`. -/
theorem Query.Property.ofText_eq_iff {s : String} {p : Property} :
    Property.ofText s = p ↔ p.shown = s ∧ '=' ∉ p.name.toList := by
  constructor
  · rintro rfl
    exact ⟨Property.shown_ofText s, Property.not_mem_name_ofText s⟩
  · rintro ⟨rfl, plain⟩
    exact Property.ofText_shown plain

namespace Descriptor

/-- Properties as they are read from texts. -/
def IsRead (d : Descriptor) : Prop := ∀ p ∈ d.properties, Property.ofText p.shown = p

/-- A descriptor that comes of a kind and properties, or of attributes. -/
inductive Built (d : Descriptor) : Prop where
  | ofValues {kind properties : Value} (built : Descriptor.ofValues kind properties = .ok d)
  | ofAttributes {attributes : Attributes} (built : Descriptor.ofAttributes attributes = .ok d)

variable {d : Descriptor}

/-! ## What is built is read -/

theorem propertyOf_read {v : Value} {p : Property} (read : propertyOf v = .ok p) :
    Property.ofText p.shown = p := by
  obtain ⟨w, -, rfl⟩ := map_eq_ok_iff.1 read
  rw [Property.shown_ofText]

theorem isRead_of_ofValues {kind properties : Value} (read : ofValues kind properties = .ok d) :
    d.IsRead := by
  simp only [ofValues, bind_eq_ok_iff] at read
  obtain ⟨properties, walked, kind, -, returned⟩ := read
  cases returned
  unfold propertiesOf at walked
  split at walked
  · obtain ⟨items, -, walked⟩ := bind_eq_ok_iff.1 walked
    intro p member
    obtain ⟨v, -, read⟩ := exists_of_mem_mapM walked p member
    exact propertyOf_read read
  · cases walked
    exact List.forall_mem_nil _

theorem isRead_of_ofAttributes {attributes : Attributes} (read : ofAttributes attributes = .ok d) :
    d.IsRead :=
  isRead_of_ofValues read

theorem Built.isRead (built : Built d) : d.IsRead := by
  cases built with
  | ofValues built => exact isRead_of_ofValues built
  | ofAttributes built => exact isRead_of_ofAttributes built

/-! ## Building again -/

/-- A descriptor is built from its kind and the texts of its properties. -/
theorem ofValues_shown (read : d.IsRead) :
    ofValues (.text d.kind) (.list ((d.properties.map Property.shown).map .text)) = .ok d := by
  have properties : (d.properties.map Property.shown).map Property.ofText = d.properties := by
    rw [List.map_map]
    exact (List.map_congr_left (g := id) read).trans (List.map_id _)
  rw [ofValues_text, properties]

theorem isRead_iff : d.IsRead ↔ ∀ p ∈ d.properties, '=' ∉ p.name.toList :=
  forall₂_congr fun _ _ => by simp [Property.ofText_eq_iff]

/-- **Texts and properties are read back from each other**: a text as it is, and a property if its
name has no `=`.  So exactly those descriptors are built whose names have none, and exactly those
are built again from their own kind and texts, with all properties in order. -/
theorem built_iff_built_again :
    (∀ s, (Property.ofText s).shown = s) ∧
    (∀ name value, '=' ∉ name.toList →
      Property.ofText (Property.shown ⟨name, value⟩) = ⟨name, value⟩) ∧
    (∀ d : Descriptor, Built d ↔ ∀ p ∈ d.properties, '=' ∉ p.name.toList) ∧
    ∀ d : Descriptor, Built d ↔
      ofValues (.text d.kind) (.list ((d.properties.map Property.shown).map .text)) = .ok d := by
  have again {d : Descriptor} (read : d.IsRead) : Built d := .ofValues (ofValues_shown read)
  refine ⟨Property.shown_ofText, fun _ _ plain => Property.ofText_shown plain, fun d => ?_,
    fun d => ?_⟩
  · rw [← isRead_iff]
    exact ⟨Built.isRead, again⟩
  · exact ⟨fun built => ofValues_shown built.isRead, .ofValues⟩

/-! A descriptor without a kind: a property twice, one without a name, and one without a value and
then with the empty value. -/

namespace Repeated

def repeated : Descriptor where
  kind := ""
  properties := [⟨"x", some "a=b"⟩, ⟨"", none⟩, ⟨"flag", none⟩, ⟨"flag", some ""⟩,
    ⟨"x", some "a=b"⟩, ⟨"", some "="⟩]

def texts : List Value := ["x=a=b", "", "flag", "flag=", "x=a=b", "=="].map .text

theorem built_again_repeated :
    Property.ofText (Property.shown ⟨"flag", some ""⟩) = ⟨"flag", some ""⟩ ∧
    ofAttributes [(.text "properties", .tuple texts)] = .ok repeated ∧
    ofValues (.text "") (.list texts) = .ok repeated := by
  obtain ⟨-, property, -, again⟩ := built_iff_built_again
  have built : ofAttributes [(.text "properties", .tuple texts)] = .ok repeated := by rfl
  exact ⟨property "flag" (some "") (by decide), built, (again repeated).1 (.ofAttributes built)⟩

end Repeated

end Descriptor

end Hallmark
