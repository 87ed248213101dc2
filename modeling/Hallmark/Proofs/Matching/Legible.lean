/-
# Hallmark.Proofs.Matching.Legible -- when matching returns

Attributes are taken as they are given, and it is the metadata that a search finds whose
kind and properties are read.  They are `Legible` if the kind can be written and the
properties are empty or hold items that can be written; a number, a date or the true truth
value holds no items.  An entity for which nothing is found is `Tellable` if its name can be
written, as every name can that is a text.  With prefixes that are texts nothing else can fail:
describing an entity, matching it and selecting among entities return exactly if what is found
for them is legible, or if the query is `matchAll`, for which nothing is read
(`Graph.returns_iff_readable`).
-/
import Hallmark.Graph.Load
import Hallmark.Graph.Lookup
import Hallmark.Proofs.Matching.Answer
import Hallmark.Proofs.Search.Role
import Hallmark.Proofs.Search.Reach

namespace Hallmark

set_option autoImplicit false

open Document Query

namespace Descriptor

/-- Attributes that a descriptor can be read from. -/
structure Legible (attributes : Attributes) : Prop where
  kind : ((attributes.get? (.text "kind")).getD .none).isWritable
  properties : ((attributes.get? (.text "properties")).getD .none).isTrue →
    ∃ items, ((attributes.get? (.text "properties")).getD .none).items? = some items ∧
      ∀ v ∈ items, v.isWritable

theorem exists_kindOf_iff (v : Value) : (∃ kind, kindOf v = .ok kind) ↔ v.isWritable = true := by
  cases v with
  | none => exact ⟨fun _ => rfl, fun _ => ⟨"", rfl⟩⟩
  | _ =>
    rw [← Value.exists_written_iff]
    exact exists_map_iff

theorem exists_propertyOf_iff (v : Value) :
    (∃ p, propertyOf v = .ok p) ↔ v.isWritable = true := by
  rw [← Value.exists_written_iff]
  exact exists_map_iff

theorem exists_propertiesOf_iff (v : Value) : (∃ ps, propertiesOf v = .ok ps) ↔
    (v.isTrue = true → ∃ items, v.items? = some items ∧ ∀ w ∈ items, w.isWritable = true) := by
  unfold propertiesOf
  split
  · rename_i filled
    cases held : v.items? with
    | none => simp [Value.items, held, bind_eq_ok_iff, filled]
    | some items =>
      simp [Value.items, held, bind_eq_ok_iff, filled, exists_mapM_iff, exists_propertyOf_iff]
  · rename_i empty
    exact ⟨fun _ filled => absurd filled empty, fun _ => ⟨[], rfl⟩⟩

/-- A lone text is legible, be it one property or the characters of a text. -/
theorem collected_iff (v : Value) :
    ((collected v).isTrue = true →
      ∃ items, (collected v).items? = some items ∧ ∀ w ∈ items, w.isWritable = true) ↔
    (v.isTrue = true → ∃ items, v.items? = some items ∧ ∀ w ∈ items, w.isWritable = true) := by
  cases v with
  | text s =>
    constructor
    · exact fun _ _ => ⟨_, rfl, by simp [Value.isWritable]⟩
    · exact fun _ _ => ⟨_, rfl, by simp [Value.isWritable]⟩
  | _ => rfl

theorem exists_ofAttributes_iff (attributes : Attributes) :
    (∃ d, ofAttributes attributes = .ok d) ↔ Legible attributes := by
  simp only [ofAttributes, ofValues, bind_eq_ok_iff]
  constructor
  · rintro ⟨d, properties, read, kind, written, -⟩
    refine ⟨(exists_kindOf_iff _).1 ⟨kind, written⟩, ?_⟩
    exact (collected_iff _).1 ((exists_propertiesOf_iff _).1 ⟨properties, read⟩)
  · rintro ⟨writable, walked⟩
    obtain ⟨kind, written⟩ := (exists_kindOf_iff _).2 writable
    obtain ⟨properties, read⟩ := (exists_propertiesOf_iff _).2 ((collected_iff _).2 walked)
    exact ⟨_, properties, read, kind, written, rfl⟩

end Descriptor

namespace Graph

variable (g : Graph) (c : Settings)

/-- What a search finds for an entity, if it finds anything, is legible. -/
def Readable (t : Target) : Prop :=
  ∀ a, (Search.find g.model c t).answer = .ok (some a) → Descriptor.Legible (g.resolve a.1)

/-- If a search finds nothing for an entity, its name can be written. -/
def Tellable (t : Target) : Prop :=
  (Search.find g.model c t).answer = .ok none → t.value.isWritable = true

variable {g c} {t : Target}

theorem tellable_of_text {s : String} (named : t.value = .text s) : g.Tellable c t :=
  fun _ => by rw [named]; rfl

theorem check_of_find {name : Value} (found : g.find name = .ok t) : t.check = .ok () := by
  unfold find at found
  split at found
  · cases found
  · rename_i key
    have hashable : name.isKey = true := by simpa using key
    split at found
    · cases found
      exact if_pos hashable
    · split at found
      · cases found
        exact if_pos hashable
      · split at found <;> cases found

/-- A descriptor is returned, or none, exactly if what the search finds can be read. -/
theorem exists_describe_iff (texts : ∀ v ∈ c.reserved, ∃ start, v = .text start)
    (known : t.check = .ok ()) :
    (∃ found, (g.model.describe c t).answer = .ok found) ↔ g.Readable c t := by
  have lookedUp : g.model.lookUp t = .ok () := known
  rw [Model.answer_describe, lookedUp]
  cases found : (Search.find g.model c t).answer with
  | error f =>
    obtain ⟨v, member, untyped⟩ := Search.exists_not_text_of_find found
    obtain ⟨start, rfl⟩ := texts v member
    cases untyped
  | ok a =>
    cases a with
    | none =>
      refine ⟨fun _ a same => ?_, fun _ => ⟨none, rfl⟩⟩
      rw [found] at same
      cases same
    | some a =>
      have read : (∃ d, Descriptor.ofAttributes (g.resolve a.1) = .ok d) ↔ g.Readable c t := by
        rw [Descriptor.exists_ofAttributes_iff]
        constructor
        · intro legible b same
          rw [found] at same
          cases same
          exact legible
        · exact fun readable => readable a found
      rw [← read]
      exact exists_map_iff

theorem describe_eq_none_iff (known : t.check = .ok ()) :
    (g.model.describe c t).answer = .ok none ↔ (Search.find g.model c t).answer = .ok none := by
  have lookedUp : g.model.lookUp t = .ok () := known
  rw [Model.answer_describe, lookedUp]
  change (Search.find g.model c t).answer >>= _ = .ok none ↔ _
  rcases (Search.find g.model c t).answer with f | _ | a
  · exact ⟨nofun, nofun⟩
  · exact ⟨fun _ => rfl, fun _ => rfl⟩
  · constructor
    · intro described
      obtain ⟨_, _, never⟩ := map_eq_ok_iff.1 described
      cases never
    · exact nofun

theorem decides_iff (texts : ∀ v ∈ c.reserved, ∃ start, v = .text start)
    (known : t.check = .ok ()) : g.model.Decides c t ↔ g.Readable c t ∧ g.Tellable c t := by
  have told : g.Tellable c t ↔ ((g.model.describe c t).answer = .ok none → Returns t.shown) := by
    rw [describe_eq_none_iff known, t.returns_shown_iff, Tellable]
  rw [told, ← exists_describe_iff texts known]
  constructor
  · rintro ⟨found, described, written⟩
    exact ⟨⟨found, described⟩, fun nothing => written (Except.ok.inj (described.symm.trans nothing))⟩
  · rintro ⟨⟨found, described⟩, written⟩
    exact ⟨found, described, fun nothing => written (nothing ▸ described)⟩

/-- **When matching returns.** With prefixes that are texts, describing an entity returns
exactly if what the search finds for it can be read; matching it against a query, and
selecting by a query, return exactly if that holds, and an entity for which nothing is found
can be written, or the query is `matchAll`. -/
theorem returns_iff_readable (g : Graph) {c : Settings}
    (texts : ∀ v ∈ c.reserved, ∃ start, v = .text start) {handles : List Target}
    (known : ∀ t ∈ handles, ∃ name, g.find name = .ok t) (query : String) :
    (∀ t ∈ handles,
      ((∃ found, (g.model.describe c t).answer = .ok found) ↔ g.Readable c t) ∧
      ((∃ b, (g.model.accepts c t query).answer = .ok b) ↔
        query = matchAll ∨ g.Readable c t ∧ g.Tellable c t)) ∧
    ((∃ chosen, (g.model.select c handles (.text query)).answer = .ok chosen) ↔
      query = matchAll ∨ ∀ t ∈ handles, g.Readable c t ∧ g.Tellable c t) := by
  have described : ∀ t ∈ handles,
      (∃ found, (g.model.describe c t).answer = .ok found) ↔ g.Readable c t := by
    intro t member
    obtain ⟨name, found⟩ := known t member
    exact exists_describe_iff texts (check_of_find found)
  have accepted : ∀ t ∈ handles,
      (∃ b, (g.model.accepts c t query).answer = .ok b) ↔
        query = matchAll ∨ g.Readable c t ∧ g.Tellable c t := by
    intro t member
    obtain ⟨name, found⟩ := known t member
    rw [Model.exists_accepts_iff, decides_iff texts (check_of_find found)]
  refine ⟨fun t member => ⟨described t member, accepted t member⟩, ?_⟩
  rw [Model.exists_select_iff, forall₂_congr accepted]
  by_cases all : query = matchAll
  · simp [all]
  · simp [all]

/-! ## Properties that are a number -/

namespace Numbered

def declaration (properties : Value) : Value :=
  .map [(.text "type", .text Settings.defaultMetadataType),
    (.text "attributes", .map [(.text "properties", properties)])]

/-- An entity whose properties are the number five, and one with a property. -/
def document : Value :=
  .map [(.text "entities", .map [
    (.text "five", .map [(.text "annotations", .list [declaration (.whole 5)])]),
    (.text "sound", .map [(.text "annotations", .list [declaration (.list [.text "x"])])])])]

def found (properties : Value) : Annotation :=
  ⟨Settings.defaultMetadataType, [(.text "properties", properties)]⟩

def graph : Graph where
  entities := [(.text "five", [found (.whole 5)]), (.text "sound", [found (.list [.text "x"])])]
  types := []
  defaults := [(.text Settings.defaultMetadataType, metadataDefaults)]

def five : Target := .entity (.text "five")

def sound : Target := .entity (.text "sound")

theorem ofValue_document :
    (ofValue (.text Settings.defaultMetadataType) document).answer = .ok graph := by
  rfl

theorem find_five : (Search.find graph.model Settings.default five).answer =
    .ok (some ⟨found (.whole 5), by decide⟩) := by
  rw [Search.find_of_first (M := graph.model) (e := five) rfl rfl]

theorem find_sound : (Search.find graph.model Settings.default sound).answer =
    .ok (some ⟨found (.list [.text "x"]), by decide⟩) := by
  rw [Search.find_of_first (M := graph.model) (e := sound) rfl rfl]

theorem describe_five : (graph.model.describe Settings.default five).answer =
    .error (.notIterable (.whole 5)) := by
  rw [Model.answer_describe, find_five]
  rfl

/-- A graph is accepted with a number for properties, and then neither describing nor matching
nor selecting the entity returns. -/
theorem matching_fails :
    (ofValue (.text Settings.defaultMetadataType) document).answer = .ok graph ∧
      graph.find (.text "five") = .ok five ∧
      (graph.model.describe Settings.default five).answer = .error (.notIterable (.whole 5)) ∧
      (graph.model.accepts Settings.default five "Other").answer =
        .error (.notIterable (.whole 5)) ∧
      (graph.model.select Settings.default [five] (.text "Other")).answer =
        .error (.notIterable (.whole 5)) := by
  have rejected : (graph.model.accepts Settings.default five "Other").answer =
      .error (.notIterable (.whole 5)) := by
    rw [Model.answer_accepts, describe_five]
    rfl
  refine ⟨ofValue_document, rfl, describe_five, rejected, ?_⟩
  rw [Model.select, Traced.answer_bind, Model.answer_keep_cons, rejected]
  rfl

theorem readable_sound : graph.Readable Settings.default sound := by
  intro a found
  rw [find_sound] at found
  cases found
  exact ⟨rfl, fun _ => ⟨_, rfl, by decide⟩⟩

theorem not_readable_five : ¬ graph.Readable Settings.default five := by
  intro readable
  obtain ⟨items, held, -⟩ := (readable _ find_five).properties rfl
  cases held

/-- Among the two the sound one is matched, and a selection needs both unless it takes all. -/
theorem returns_numbered :
    (∃ b, (graph.model.accepts Settings.default sound "Other").answer = .ok b) ∧
      (¬ ∃ chosen,
        (graph.model.select Settings.default [sound, five] (.text "Other")).answer = .ok chosen) ∧
      ∃ chosen,
        (graph.model.select Settings.default [sound, five] (.text matchAll)).answer =
          .ok chosen := by
  have texts : ∀ v ∈ Settings.default.reserved, ∃ start, v = .text start := by
    intro v member
    exact ⟨_, List.mem_singleton.1 member⟩
  have known : ∀ t ∈ [sound, five], ∃ name, graph.find name = .ok t := by
    simp only [List.forall_mem_cons]
    exact ⟨⟨.text "sound", rfl⟩, ⟨.text "five", rfl⟩, nofun⟩
  obtain ⟨single, selected⟩ := returns_iff_readable graph texts known "Other"
  obtain ⟨-, all⟩ := returns_iff_readable graph texts known matchAll
  have tellable : graph.Tellable Settings.default sound := tellable_of_text rfl
  refine ⟨(single sound List.mem_cons_self).2.2 (.inr ⟨readable_sound, tellable⟩), ?_, all.2 (.inl rfl)⟩
  intro returned
  rcases selected.1 returned with same | readable
  · revert same
    decide
  · exact not_readable_five (readable five (by simp)).1

end Numbered

end Graph

end Hallmark
