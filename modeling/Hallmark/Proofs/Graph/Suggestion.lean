/-
# Hallmark.Proofs.Graph.Suggestion -- what is answered to a name

A name is found among the entities or else among the types.  If it is in neither, every name of
the graph is rated against it, which fails with a fault at a name without items, such as a
number.  Of the names that are close, the three best are suggested, and that fails if one of
them is no text.

The two sections may give one name twice, and both copies are rated.  Equal names are equally
close, so the copies are next to each other among the suggestions; hence these are distinct
exactly if neither of the first two is a name in both sections (`Suggests.nodup_iff`).
-/
import Hallmark.Graph.Load
import Hallmark.Graph.Lookup
import Hallmark.Proofs.Document.Dictionary
import Hallmark.Proofs.Text.Order
import Hallmark.Proofs.Text.Resemblance
import Mathlib.Data.List.Duplicate
import Mathlib.Data.List.Perm.Subperm
import Mathlib.Data.Prod.Lex

namespace Hallmark

set_option autoImplicit false

/-! ## Copies -/

section Copies

variable {α β : Type} {l m : List α} {x : α}

theorem duplicate_iff_of_perm (perm : l.Perm m) : l.Duplicate x ↔ m.Duplicate x := by
  classical rw [List.duplicate_iff_two_le_count, List.duplicate_iff_two_le_count, perm.count_eq]

theorem duplicate_append_iff (once : ¬ l.Duplicate x) (once' : ¬ m.Duplicate x) :
    (l ++ m).Duplicate x ↔ x ∈ l ∧ x ∈ m := by
  classical
  rw [List.duplicate_iff_two_le_count] at once once' ⊢
  rw [List.count_append, ← List.count_pos_iff, ← List.count_pos_iff]
  omega

theorem duplicate_filter_iff {p : α → Bool} (kept : p x = true) :
    (l.filter p).Duplicate x ↔ l.Duplicate x := by
  classical
  rw [List.duplicate_iff_two_le_count, List.duplicate_iff_two_le_count, List.count_filter kept]

/-- In a list in descending order an item that occurs again does so right behind itself. -/
theorem mem_take_of_mem [LinearOrder β] {key : α → β} {n : Nat}
    (sorted : (x :: l).Pairwise fun y z => key z ≤ key y)
    (told : ∀ y ∈ l.take (n + 1), key x = key y → x = y) (again : x ∈ l) : x ∈ l.take (n + 1) := by
  cases l with
  | nil => cases again
  | cons y rest =>
    obtain ⟨above, below⟩ := List.pairwise_cons.1 sorted
    have first : y ∈ (y :: rest).take (n + 1) := List.mem_cons_self
    rcases List.mem_cons.1 again with rfl | later
    · exact first
    · have same : key x = key y :=
        le_antisymm ((List.pairwise_cons.1 below).1 x later) (above y List.mem_cons_self)
      exact told y first same ▸ first

/-- The front of a list in descending order is free of copies exactly if no item of it but the
last occurs again anywhere. -/
theorem nodup_take_iff [LinearOrder β] {key : α → β} {n : Nat}
    (sorted : l.Pairwise fun y z => key z ≤ key y)
    (told : ∀ y ∈ l.take (n + 1), ∀ z ∈ l.take (n + 1), key y = key z → y = z) :
    (l.take (n + 1)).Nodup ↔ ∀ y ∈ l.take n, ¬ l.Duplicate y := by
  induction l generalizing n with
  | nil => simp
  | cons x rest ih =>
    cases n with
    | zero => simp
    | succ n =>
      have told_first : ∀ y ∈ rest.take (n + 1), key x = key y → x = y := fun y member =>
        told x List.mem_cons_self y (List.mem_cons_of_mem _ member)
      have told_rest : ∀ y ∈ rest.take (n + 1), ∀ z ∈ rest.take (n + 1), key y = key z → y = z :=
        fun y member z member' =>
          told y (List.mem_cons_of_mem _ member) z (List.mem_cons_of_mem _ member')
      have again_iff : x ∈ rest.take (n + 1) ↔ x ∈ rest :=
        ⟨List.mem_of_mem_take, mem_take_of_mem sorted told_first⟩
      rw [List.take_succ_cons, List.take_succ_cons, List.nodup_cons, again_iff,
        ih (List.pairwise_cons.1 sorted).2 told_rest, List.forall_mem_cons]
      constructor
      · rintro ⟨once, others⟩
        refine ⟨fun twice => once twice.mem_cons_self, fun y member twice => ?_⟩
        rcases List.duplicate_cons_iff.1 twice with ⟨rfl, here⟩ | later
        · exact once here
        · exact others y member later
      · rintro ⟨once, others⟩
        refine ⟨fun again => once (List.Mem.duplicate_cons_self again), fun y member twice => ?_⟩
        exact others y member (twice.duplicate_cons x)

end Copies

namespace Graph

open Document

/-! ## Candidates -/

section Candidates

variable {name : String} {candidates : List Value} {v : Value}

/-- How much of a name is found in a candidate. -/
def resemblance (name : String) (v : Value) : Text.Likeness :=
  .of (v.items?.getD []) ((Value.text name).items?.getD [])

/-- Candidates are ranked by how much they resemble the name, and then by what is displayed. -/
def rank (name : String) (v : Value) : ℚ ×ₗ List Nat :=
  toLex ((resemblance name v).rate, Text.points v.display)

/-- The candidates that are close to a name, best first. -/
def close (name : String) (candidates : List Value) : List Value :=
  (((candidates.map fun v => (resemblance name v, v)).filter (·.1.isClose)).mergeSort precedes).map
    (·.2)

/-- What is suggested for a name: the best of the close candidates. -/
def closest (name : String) (candidates : List Value) : List Value := (close name candidates).take 3

theorem close_perm (name : String) (candidates : List Value) :
    (close name candidates).Perm (candidates.filter fun v => (resemblance name v).isClose) := by
  refine ((List.mergeSort_perm _ _).map _).trans ?_
  rw [List.filter_map, List.map_map]
  exact .of_eq (List.map_id _)

theorem mem_close_iff : v ∈ close name candidates ↔
    v ∈ candidates ∧ (resemblance name v).isClose = true := by
  rw [(close_perm name candidates).mem_iff, List.mem_filter]

theorem precedes_iff {x y : Text.Likeness × Value} : precedes x y = true ↔
    toLex (y.1.rate, Text.points y.2.display) ≤ toLex (x.1.rate, Text.points x.2.display) := by
  rw [Prod.Lex.toLex_le_toLex]
  unfold precedes
  by_cases above : y.1.less x.1 = true
  · simp [above, Text.Likeness.less_iff.1 above]
  · by_cases below : x.1.less y.1 = true
    · have less := Text.Likeness.less_iff.1 below
      simp [above, below, less.not_gt, less.ne']
    · have same : y.1.rate = x.1.rate := by
        rw [Text.Likeness.less_iff, not_lt] at above below
        exact le_antisymm below above
      simp [above, below, same, ← Bool.not_eq_true, Text.precedes_iff]

theorem close_sorted (name : String) (candidates : List Value) :
    (close name candidates).Pairwise fun v w => rank name w ≤ rank name v := by
  have trans : ∀ x y z, precedes x y = true → precedes y z = true → precedes x z = true := by
    intro x y z first second
    rw [precedes_iff] at first second ⊢
    exact second.trans first
  have total : ∀ x y, (precedes x y || precedes y x) = true := by
    intro x y
    rw [Bool.or_eq_true, precedes_iff, precedes_iff]
    exact le_total _ _
  rw [close, List.pairwise_map]
  refine (List.pairwise_mergeSort trans total _).imp_of_mem fun {x y} here there before => ?_
  have likened : ∀ x ∈ ((candidates.map fun v => (resemblance name v, v)).filter
      (·.1.isClose)).mergeSort precedes, x.1 = resemblance name x.2 := by
    intro x member
    obtain ⟨v, -, rfl⟩ := List.mem_map.1 (List.mem_filter.1 (List.mem_mergeSort.1 member)).1
    rfl
  rw [rank, rank, ← likened x here, ← likened y there]
  exact precedes_iff.1 before

/-! ## Suggestions -/

/-- Candidates for which suggestions can be made: each has items, and what is closest is text. -/
structure Suggestible (name : String) (candidates : List Value) : Prop where
  sized : ∀ v ∈ candidates, v.items?.isSome = true
  texts : ∀ v ∈ closest name candidates, ∃ s, v = .text s

/-- A candidate with its resemblance, if it has items. -/
def rated (name : String) (v : Value) : Except Fault (Text.Likeness × Value) := do
  return (.of (← sized v) ((Value.text name).items?.getD []), v)

theorem suggestions_eq (name : String) (candidates : List Value) :
    suggestions (.text name) candidates = (do
      let all ← candidates.mapM (rated name)
      allText ((((all.filter fun x => x.1.isClose).mergeSort precedes).take 3).map fun x => x.2)) :=
  rfl

theorem rated_of_items {items : List Value} (held : v.items? = some items) :
    rated name v = .ok (resemblance name v, v) := by
  have is_sized : sized v = .ok items := by rw [sized, held]
  rw [rated, is_sized, resemblance, held]
  rfl

theorem returns_rated_iff : Returns (rated name v) ↔ v.items?.isSome = true := by
  constructor
  · rintro ⟨_, returned⟩
    simp only [rated, bind_eq_ok_iff] at returned
    obtain ⟨items, is_sized, -⟩ := returned
    unfold sized at is_sized
    cases held : v.items? with
    | some items => rfl
    | none =>
      rw [held] at is_sized
      cases is_sized
  · intro some
    obtain ⟨items, held⟩ := Option.isSome_iff_exists.1 some
    exact ⟨_, rated_of_items held⟩

theorem mapM_rated (some : ∀ v ∈ candidates, v.items?.isSome = true) :
    candidates.mapM (rated name) = .ok (candidates.map fun v => (resemblance name v, v)) := by
  induction candidates with
  | nil => rfl
  | cons v rest ih =>
    obtain ⟨first, others⟩ := List.forall_mem_cons.1 some
    obtain ⟨items, held⟩ := Option.isSome_iff_exists.1 first
    rw [List.mapM_cons, rated_of_items held, ih others]
    rfl

theorem suggestions_of_sized (some : ∀ v ∈ candidates, v.items?.isSome = true) :
    suggestions (.text name) candidates = allText (closest name candidates) := by
  rw [suggestions_eq, mapM_rated some, closest, close, ← List.map_take]
  rfl

theorem returns_suggestions_iff :
    Returns (suggestions (.text name) candidates) ↔ Suggestible name candidates := by
  constructor
  · rintro ⟨names, returned⟩
    have some : ∀ v ∈ candidates, v.items?.isSome = true := by
      rw [suggestions_eq, bind_eq_ok_iff] at returned
      obtain ⟨all, listed, -⟩ := returned
      exact fun v member => returns_rated_iff.1 (exists_mapM_iff.1 ⟨all, listed⟩ v member)
    rw [suggestions_of_sized some] at returned
    exact ⟨some, returns_allText_iff.1 ⟨names, returned⟩⟩
  · rintro ⟨some, texts⟩
    rw [suggestions_of_sized some]
    exact returns_allText_iff.2 texts

theorem eq_map_of_texts {l : List Value} (texts : ∀ v ∈ l, ∃ s, v = .text s) :
    (l.filterMap Value.text?).map .text = l := by
  induction l with
  | nil => rfl
  | cons v rest ih =>
    obtain ⟨⟨s, rfl⟩, others⟩ := List.forall_mem_cons.1 texts
    have named : Value.text? (.text s) = some s := rfl
    rw [List.filterMap_cons_some named, List.map_cons, ih others]

theorem closest_of_suggestions {names : List String}
    (returned : suggestions (.text name) candidates = .ok names) :
    names.map .text = closest name candidates := by
  obtain ⟨some, texts⟩ := returns_suggestions_iff.1 ⟨names, returned⟩
  rw [suggestions_of_sized some, allText, firstNonText?_eq_none_iff.2 texts] at returned
  cases returned
  exact eq_map_of_texts texts

theorem closest_subperm (name : String) (candidates : List Value) :
    (closest name candidates).Subperm candidates :=
  (List.take_sublist 3 _).subperm.trans
    ((close_perm name candidates).subperm.trans List.filter_sublist.subperm)

theorem text_eq_of_rank_eq {s t : String} (same : rank name (.text s) = rank name (.text t)) :
    s = t := by
  have displayed : Text.points s = Text.points t := (Prod.mk.inj (toLex_inj.1 same)).2
  exact Text.points_injective displayed

theorem duplicate_close_iff (member : v ∈ close name candidates) :
    (close name candidates).Duplicate v ↔ candidates.Duplicate v := by
  refine (duplicate_iff_of_perm (close_perm name candidates)).trans (duplicate_filter_iff ?_)
  exact (mem_close_iff.1 member).2

/-- What is suggested is free of copies exactly if neither of the first two is there twice. -/
theorem nodup_suggestions_iff {names : List String}
    (returned : suggestions (.text name) candidates = .ok names) :
    names.Nodup ↔ ∀ s ∈ names.take 2, ¬ candidates.Duplicate (.text s) := by
  have listed := closest_of_suggestions returned
  have texts := (returns_suggestions_iff.1 ⟨names, returned⟩).texts
  have told : ∀ v ∈ (close name candidates).take 3, ∀ w ∈ (close name candidates).take 3,
      rank name v = rank name w → v = w := by
    intro v here w there same
    obtain ⟨s, rfl⟩ := texts v here
    obtain ⟨t, rfl⟩ := texts w there
    rw [text_eq_of_rank_eq same]
  have front : (close name candidates).take 2 = (names.take 2).map .text := by
    rw [List.map_take, listed, closest, List.take_take]
    rfl
  have injective : Function.Injective Value.text := fun _ _ => Value.text.inj
  rw [← List.nodup_map_iff injective, listed, closest,
    nodup_take_iff (close_sorted name candidates) told, front, List.forall_mem_map]
  refine forall₂_congr fun s first => not_congr (duplicate_close_iff ?_)
  have inside : .text s ∈ (names.take 2).map Value.text := List.mem_map_of_mem first
  rw [← front] at inside
  exact List.mem_of_mem_take inside

end Candidates

/-! ## Scalars

A key of a YAML document is a scalar.  Of these only texts and octets have items. -/

section Scalars

variable {name : String} {candidates : List Value} {v : Value}

def IsScalar (v : Value) : Prop := v.isKey = true ∧ ∀ items, v ≠ .tuple items

theorem isSome_items?_iff (scalar : IsScalar v) :
    v.items?.isSome = true ↔ (∃ s, v = .text s) ∨ ∃ bytes, v = .octets bytes := by
  obtain ⟨key, plain⟩ := scalar
  cases v with
  | text s => exact iff_of_true rfl (.inl ⟨s, rfl⟩)
  | octets bytes => exact iff_of_true rfl (.inr ⟨bytes, rfl⟩)
  | tuple items => exact absurd rfl (plain items)
  | list | set | map | knot | again => cases key
  | _ => simp [Value.items?, Value.opened]

/-- No number is a character, so that octets resemble a name only if both are empty. -/
theorem isClose_octets_iff {bytes : List UInt8} :
    (resemblance name (.octets bytes)).isClose = true ↔ bytes = [] ∧ name = "" := by
  have apart : ∀ x ∈ bytes.map fun b => Value.whole b.toNat,
      ∀ y ∈ name.toList.map fun c => Value.text (String.singleton c), (x == y) = false := by
    intro x here y there
    obtain ⟨b, -, rfl⟩ := List.mem_map.1 here
    obtain ⟨c, -, rfl⟩ := List.mem_map.1 there
    rfl
  have closeness := Text.Likeness.isClose_of_apart apart
  rw [List.map_eq_nil_iff, List.map_eq_nil_iff, String.toList_eq_nil_iff] at closeness
  exact closeness

theorem isClose_empty_iff : (resemblance "" v).isClose = true ↔ v.items?.getD [] = [] := by
  have apart : ∀ x ∈ v.items?.getD [], ∀ y ∈ ([] : List Value), (x == y) = false := fun _ _ => nofun
  exact (Text.Likeness.isClose_of_apart apart).trans (and_iff_left rfl)

/-- Among scalars a name that is not there has suggestions if all are texts or octets, save that
the empty octets are the one suggestion for the empty name. -/
theorem suggestible_iff (scalars : ∀ v ∈ candidates, IsScalar v) (absent : .text name ∉ candidates) :
    Suggestible name candidates ↔
      (∀ v ∈ candidates, (∃ s, v = .text s) ∨ ∃ bytes, v = .octets bytes) ∧
      (name = "" → .octets [] ∉ candidates) := by
  constructor
  · rintro ⟨some, texts⟩
    refine ⟨fun v member => (isSome_items?_iff (scalars v member)).1 (some v member), ?_⟩
    rintro rfl member
    have near : .octets [] ∈ close "" candidates :=
      mem_close_iff.2 ⟨member, isClose_octets_iff.2 ⟨rfl, rfl⟩⟩
    obtain ⟨best, rest, order⟩ := List.exists_cons_of_ne_nil (List.ne_nil_of_mem near)
    have suggested : best ∈ closest "" candidates := by
      rw [closest, order]
      exact List.mem_cons_self
    -- the best candidate is text and as empty as the name, and so it is the name
    obtain ⟨s, rfl⟩ := texts best suggested
    obtain ⟨inside, alike⟩ := mem_close_iff.1 (List.mem_of_mem_take suggested)
    obtain rfl : s = "" := by simpa [Value.items?, Value.opened] using isClose_empty_iff.1 alike
    exact absent inside
  · rintro ⟨typed, plain⟩
    refine ⟨fun v member => (isSome_items?_iff (scalars v member)).2 (typed v member), ?_⟩
    intro v suggested
    obtain ⟨inside, alike⟩ := mem_close_iff.1 (List.mem_of_mem_take suggested)
    rcases typed v inside with text | ⟨bytes, rfl⟩
    · exact text
    · obtain ⟨rfl, empty⟩ := isClose_octets_iff.1 alike
      exact absurd inside (plain empty)

end Scalars

/-! ## Looking up -/

section Lookup

variable {β : Type} {d : Dictionary Value β} {g : Graph} {name : String}

/-- The names that a graph gives in its two sections. -/
def names (g : Graph) : List Value := g.entities.keys ++ g.types.keys

theorem isSome_get?_iff : (d.get? (.text name)).isSome = true ↔ .text name ∈ d.keys := by
  simp [Dictionary.get?, Dictionary.keys, List.find?_isSome]

theorem not_duplicate_text (distinct : Dictionary.Distinct d) : ¬ d.keys.Duplicate (.text name) := by
  intro twice
  have apart := distinct.sublist (List.duplicate_iff_sublist.1 twice)
  have different : (Value.text name == Value.text name) = false :=
    (List.pairwise_cons.1 apart).1 _ List.mem_cons_self
  rw [Value.text_beq_iff.2 rfl] at different
  cases different

theorem find_of_entity (listed : .text name ∈ g.entities.keys) :
    g.find (.text name) = .ok (.entity (.text name)) := by
  simp [find, Value.isKey, isSome_get?_iff.2 listed]

theorem find_of_type (unlisted : .text name ∉ g.entities.keys) (listed : .text name ∈ g.types.keys) :
    g.find (.text name) = .ok (.type (.text name)) := by
  rw [← isSome_get?_iff] at unlisted
  simp [find, Value.isKey, unlisted, isSome_get?_iff.2 listed]

theorem find_of_suggestions {suggested : List String} (absent : .text name ∉ g.names)
    (returned : suggestions (.text name) g.names = .ok suggested) :
    g.find (.text name) = .error (.refused ⟨.text name, suggested⟩) := by
  simp only [names, List.mem_append, not_or, ← isSome_get?_iff] at absent returned
  simp [find, Value.isKey, absent, returned]

theorem find_of_no_suggestions {f : Fault} (absent : .text name ∉ g.names)
    (failed : suggestions (.text name) g.names = .error f) :
    g.find (.text name) = .error (.fault f) := by
  simp only [names, List.mem_append, not_or, ← isSome_get?_iff] at absent failed
  simp [find, Value.isKey, absent, failed]

/-- What a graph suggests: three of its names at most, and a name twice only if it is first or
second and both an entity and a type. -/
structure Suggests (g : Graph) (suggested : List String) : Prop where
  few : suggested.length ≤ 3
  listed : (suggested.map Value.text).Subperm g.names
  nodup_iff : g.entities.Distinct → g.types.Distinct →
    (suggested.Nodup ↔
      ∀ s ∈ suggested.take 2, ¬ (.text s ∈ g.entities.keys ∧ .text s ∈ g.types.keys))

theorem suggests_of_suggestions {suggested : List String}
    (returned : suggestions (.text name) g.names = .ok suggested) : Suggests g suggested := by
  have listed := closest_of_suggestions returned
  refine ⟨?_, ?_, fun entities types => ?_⟩
  · rw [← List.length_map Value.text, listed]
    exact List.length_take_le 3 _
  · rw [listed]
    exact closest_subperm name g.names
  · rw [nodup_suggestions_iff returned]
    refine forall₂_congr fun s _ => not_congr ?_
    exact duplicate_append_iff (not_duplicate_text entities) (not_duplicate_text types)

theorem find_eq_ok_iff {t : Target} : g.find (.text name) = .ok t ↔
    .text name ∈ g.entities.keys ∧ t = .entity (.text name) ∨
      .text name ∉ g.entities.keys ∧ .text name ∈ g.types.keys ∧ t = .type (.text name) := by
  by_cases entity : .text name ∈ g.entities.keys
  · simp [find_of_entity entity, entity, eq_comm]
  · by_cases type : .text name ∈ g.types.keys
    · simp [find_of_type entity type, entity, type, eq_comm]
    · have absent : .text name ∉ g.names := by simp [names, entity, type]
      cases told : suggestions (.text name) g.names with
      | ok suggested => simp [find_of_suggestions absent told, entity, type]
      | error f => simp [find_of_no_suggestions absent told, entity, type]

theorem find_text_ends (g : Graph) (name : String) :
    EndsAs (g.find (.text name)) (.text name ∈ g.names)
      (.text name ∉ g.names ∧ Suggestible name g.names)
      (.text name ∉ g.names ∧ ¬ Suggestible name g.names) := by
  by_cases listed : .text name ∈ g.names
  · have found : ∃ t, g.find (.text name) = .ok t := by
      by_cases entity : .text name ∈ g.entities.keys
      · exact ⟨_, find_of_entity entity⟩
      · exact ⟨_, find_of_type entity ((List.mem_append.1 listed).resolve_left entity)⟩
    obtain ⟨t, found⟩ := found
    rw [found]
    exact endsAs_ok.congr (by simp [listed]) (by simp [listed]) (by simp [listed])
  · rw [← returns_suggestions_iff]
    cases told : suggestions (.text name) g.names with
    | ok suggested =>
      rw [find_of_suggestions listed told]
      exact endsAs_refused.congr (by simp [listed]) (by simp [listed, Returns])
        (by simp [Returns])
    | error f =>
      rw [find_of_no_suggestions listed told]
      exact endsAs_fault.congr (by simp [listed]) (by simp [Returns])
        (by simp [listed, Returns])

/-- **How looking up a name ends.** The name of an entity is answered with the entity, and that of
a type with the type.  Any other name is refused with suggestions, unless there is a name in the
graph that none can be made with. -/
theorem find_ends (g : Graph) (name : String) :
    (∀ t, g.find (.text name) = .ok t ↔
      .text name ∈ g.entities.keys ∧ t = .entity (.text name) ∨
        .text name ∉ g.entities.keys ∧ .text name ∈ g.types.keys ∧ t = .type (.text name)) ∧
    EndsAs (g.find (.text name)) (.text name ∈ g.names)
      (.text name ∉ g.names ∧ Suggestible name g.names)
      (.text name ∉ g.names ∧ ¬ Suggestible name g.names) ∧
    (∀ e, g.find (.text name) = .error (.refused e) →
      e.name = .text name ∧ Suggests g e.suggestions) ∧
    ((∀ v ∈ g.names, IsScalar v) → .text name ∉ g.names → (Suggestible name g.names ↔
      (∀ v ∈ g.names, (∃ s, v = .text s) ∨ ∃ bytes, v = .octets bytes) ∧
        (name = "" → .octets [] ∉ g.names))) := by
  refine ⟨fun _ => find_eq_ok_iff, find_text_ends g name, fun e refused => ?_, suggestible_iff⟩
  have absent : .text name ∉ g.names := ((find_text_ends g name).refuses_iff.1 ⟨e, refused⟩).1
  cases told : suggestions (.text name) g.names with
  | ok suggested =>
    rw [find_of_suggestions absent told] at refused
    cases refused
    exact ⟨rfl, suggests_of_suggestions told⟩
  | error f =>
    rw [find_of_no_suggestions absent told] at refused
    cases refused

end Lookup

/-! A graph with a name that is both an entity and a type, and one with an entity whose key is
nothing. -/

namespace Named

def doubled : Graph where
  entities := [(.text "app.Service", [])]
  types := [(.text "app.Service", [])]
  defaults := [(.text "app.Service", []), (.text "m", metadataDefaults)]

def nameless : Graph where
  entities := [(.none, [])]
  types := []
  defaults := [(.text "m", metadataDefaults)]

theorem suggests_doubled : ∃ e, doubled.find (.text "app.Servic") = .error (.refused e) ∧
    e.name = .text "app.Servic" ∧ Suggests doubled e.suggestions := by
  obtain ⟨-, ends, told, suggestible⟩ := find_ends doubled "app.Servic"
  have one : ∀ v ∈ doubled.names, v = .text "app.Service" := by simp [names, doubled, Dictionary.keys]
  have scalars : ∀ v ∈ doubled.names, IsScalar v := by
    intro v member
    rw [one v member]
    exact ⟨rfl, nofun⟩
  have absent : .text "app.Servic" ∉ doubled.names := fun member => by
    simpa using one _ member
  have texts : ∀ v ∈ doubled.names, (∃ s, v = .text s) ∨ ∃ bytes, v = .octets bytes :=
    fun v member => .inl ⟨_, one v member⟩
  obtain ⟨e, refused⟩ := ends.refuses_iff.2 ⟨absent, (suggestible scalars absent).2 ⟨texts, nofun⟩⟩
  exact ⟨e, refused, told e refused⟩

theorem suggestions_doubled : suggestions (.text "app.Servic") doubled.names =
    .ok ["app.Service", "app.Service"] := by
  have alike : (resemblance "app.Servic" (.text "app.Service")).isClose = true := by decide +kernel
  have both : (close "app.Servic" doubled.names).Perm
      (List.replicate 2 (.text "app.Service")) := by
    have kept := close_perm "app.Servic" doubled.names
    simpa [names, doubled, Dictionary.keys, alike] using kept
  have some : ∀ v ∈ doubled.names, v.items?.isSome = true := by
    simp [names, doubled, Dictionary.keys, Value.items?, Value.opened]
  rw [suggestions_of_sized some, closest, List.perm_replicate.1 both]
  rfl

theorem find_unclean :
    (ofValue (.text "m") (.map [(.text "entities", .map [(.none, .none)])])).answer =
        .ok nameless ∧
      Faults (nameless.find (.text "x")) ∧
    (ofValue (.text "m") (.map [(.text "types", .map [(.text "app.Service", .none)]),
        (.text "entities", .map [(.text "app.Service", .none)])])).answer = .ok doubled ∧
      doubled.find (.text "app.Servic") =
        .error (.refused ⟨.text "app.Servic", ["app.Service", "app.Service"]⟩) := by
  have absent : .text "app.Servic" ∉ doubled.names := by simp [names, doubled, Dictionary.keys]
  exact ⟨rfl, by decide +kernel, rfl, find_of_suggestions absent suggestions_doubled⟩

end Named

end Graph

end Hallmark
