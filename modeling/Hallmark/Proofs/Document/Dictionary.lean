/-
# Hallmark.Proofs.Document.Dictionary -- dictionaries read entry by entry, and laid over others

Reading the entries of a dictionary one after the other, each under its own key, gives a
dictionary with the same keys in the same order.  What stands in it under a key was read from
what stands under that key in the first (`Along.get?`).

A dictionary that is merged into another one is laid over it: the keys of the base keep their
places, those that it lacks follow, and under each stands what was laid over the base, or else
what stood in the base (`Overlays`).  That much decides the outcome, since where no two keys are
the same a dictionary is known by its keys and what stands under them (`Keyed.ext`).
-/
import Hallmark.Failure
import Mathlib.Data.List.Forall2

namespace Hallmark

set_option autoImplicit false

universe u v w

/-- A list is gone through item by item. -/
theorem forall₂_of_mapM {α β ε : Type} {f : α → Except ε β} {l : List α} {bs : List β}
    (returned : l.mapM f = .ok bs) : List.Forall₂ (fun a b => f a = .ok b) l bs := by
  induction l generalizing bs with
  | nil =>
    cases returned
    exact .nil
  | cons a rest ih =>
    simp only [List.mapM_cons, bind_eq_ok_iff] at returned
    obtain ⟨b, first, others, later, same⟩ := returned
    cases same
    exact .cons first (ih later)

namespace Dictionary

variable {κ : Type u} {β : Type v} {γ : Type w} {read : β → γ → Prop}
  {d : Dictionary κ β} {e : Dictionary κ γ}

/-- The entries of the second dictionary are those of the first, with what is read from each. -/
def Along (read : β → γ → Prop) (d : Dictionary κ β) (e : Dictionary κ γ) : Prop :=
  List.Forall₂ (fun x y => y.1 = x.1 ∧ read x.2 y.2) d e

theorem Along.keys_eq (along : Along read d e) : e.keys = d.keys := by
  induction along with
  | nil => rfl
  | @cons x y d e first _ ih =>
    change y.1 :: keys e = x.1 :: keys d
    rw [first.1, ih]

theorem Along.get? [BEq κ] (along : Along read d e) (key : κ) :
    Option.Rel read (d.get? key) (e.get? key) := by
  induction along with
  | nil => exact .none
  | @cons x y _ _ first _ ih =>
    obtain ⟨k, v⟩ := x
    obtain ⟨l, w⟩ := y
    obtain ⟨rfl, related⟩ := first
    rw [get?_cons, get?_cons]
    split
    · exact .some related
    · exact ih

/-! ## Merging -/

theorem keys_map {f : β → γ} (d : Dictionary κ β) : keys (d.map fun e => (e.1, f e.2)) = d.keys :=
  List.map_map

theorem forall_mem_keys_iff {p : κ → Prop} {d : Dictionary κ β} :
    (∀ k ∈ d.keys, p k) ↔ ∀ e ∈ d, p e.1 :=
  List.forall_mem_map

section Merging

variable [BEq κ] {base added : Dictionary κ β} {key : κ}

/-- Merging adds the keys that are missing, in their order. -/
theorem keys_merge (base : Dictionary κ β) (distinct : Distinct added) :
    (base.merge added).keys = base.keys ++ added.keys.filter fun k => !base.keys.any (· == k) := by
  induction added generalizing base with
  | nil => exact (List.append_nil _).symm
  | cons e rest ih =>
    obtain ⟨k, v⟩ := e
    obtain ⟨apart, others⟩ := List.pairwise_cons.1 distinct
    have step : base.merge ((k, v) :: rest) = (base.put k v).merge rest := rfl
    rw [step, ih _ others, keys_put, keys_cons, List.filter_cons]
    by_cases present : base.keys.any (· == k) = true
    · simp [present]
    · -- the new key is not the same as any that follow it
      have later : ((keys rest).filter fun l => !(base.keys ++ [k]).any (· == l))
          = (keys rest).filter fun l => !base.keys.any (· == l) := by
        refine List.filter_congr fun l member => ?_
        simp [apart l member]
      rw [if_neg present, later]
      simp [present]

/-- Every key is the same as itself, and none is the same as one behind it. -/
structure Keyed (d : Dictionary κ β) : Prop where
  distinct : Distinct d
  self : ∀ k ∈ d.keys, (k == k) = true

theorem keyed_congr {d : Dictionary κ β} {e : Dictionary κ γ} (same : d.keys = e.keys) :
    Keyed d ↔ Keyed e := by
  constructor
  · rintro ⟨distinct, self⟩
    exact ⟨by rwa [Distinct, ← same], by rwa [← same]⟩
  · rintro ⟨distinct, self⟩
    exact ⟨by rwa [Distinct, same], by rwa [same]⟩

theorem Keyed.merge (keyed : Keyed base) (laid : Keyed added) : Keyed (base.merge added) where
  distinct := keyed.distinct.merge added
  self := by
    intro k member
    rw [keys_merge base laid.distinct, List.mem_append, List.mem_filter] at member
    rcases member with old | ⟨new, -⟩
    · exact keyed.self k old
    · exact laid.self k new

theorem get?_eq_none_iff {d : Dictionary κ β} :
    d.get? key = none ↔ ∀ k ∈ d.keys, (k == key) = false := by
  simp [Dictionary.get?, forall_mem_keys_iff, List.find?_eq_none]

/-- Merged into whatever base, a dictionary gives the same for a key if it has it, and leaves what
the base has if it lacks it. -/
theorem exists_get?_merge (sharp : Sharp key) (added : Dictionary κ β) :
    ∃ found : Option β, (found = none ↔ added.get? key = none) ∧
      ∀ base : Dictionary κ β, (base.merge added).get? key = found.or (base.get? key) := by
  refine ⟨_, ?_, fun base => get?_merge sharp base added⟩
  rw [Option.map_eq_none_iff, List.getLast?_eq_none_iff, List.filter_eq_nil_iff, get?_eq_none_iff,
    forall_mem_keys_iff]
  simp

/-- A dictionary is known by its keys and what stands under them. -/
theorem Keyed.ext {d e : Dictionary κ β} (keyed : Keyed d) (same : d.keys = e.keys)
    (alike : ∀ k ∈ d.keys, d.get? k = e.get? k) : d = e := by
  induction d generalizing e with
  | nil =>
    cases e with
    | nil => rfl
    | cons f e => cases same
  | cons f d ih =>
    cases e with
    | nil => cases same
    | cons g e =>
      obtain ⟨k, v⟩ := f
      obtain ⟨l, w⟩ := g
      obtain ⟨rfl, same_rest⟩ := List.cons.inj same
      obtain ⟨apart, distinct⟩ := List.pairwise_cons.1 keyed.distinct
      obtain ⟨self, selves⟩ := List.forall_mem_cons.1 keyed.self
      obtain ⟨here, later⟩ := List.forall_mem_cons.1 alike
      have value : v = w := by simpa [get?_cons, self] using here
      have rest : d = e := by
        refine ih ⟨distinct, selves⟩ same_rest fun m member => ?_
        have passed := later m member
        simpa [get?_cons, apart m member] using passed
      rw [value, rest]

section Equivalence

variable [PartialEquivBEq κ]

theorem get?_put_eq (d : Dictionary κ β) (key other : κ) (value : β) :
    (d.put key value).get? other = if key == other then some value else d.get? other := by
  induction d with
  | nil => rw [put, get?_cons]
  | cons e rest ih =>
    obtain ⟨k, v⟩ := e
    rw [put]
    by_cases same : (k == key) = true
    · have alike : (k == other) = (key == other) := BEq.congr_left same
      rw [if_pos same, get?_cons, get?_cons, alike]
      split <;> rfl
    · rw [if_neg same, get?_cons, get?_cons, ih]
      by_cases here : (k == other) = true
      · have apart : ¬ (key == other) = true :=
          fun found => same (BEq.trans here (BEq.symm found))
        rw [if_pos here, if_pos here, if_neg apart]
      · rw [if_neg here, if_neg here]

/-- What is laid over decides, and what it leaves out is as it was. -/
theorem get?_merge_eq (base : Dictionary κ β) (distinct : Distinct added) (key : κ) :
    (base.merge added).get? key = (added.get? key).or (base.get? key) := by
  induction added generalizing base with
  | nil => rfl
  | cons e rest ih =>
    obtain ⟨k, v⟩ := e
    obtain ⟨apart, others⟩ := List.pairwise_cons.1 distinct
    have step : base.merge ((k, v) :: rest) = (base.put k v).merge rest := rfl
    rw [step, ih _ others, get?_put_eq, get?_cons]
    by_cases here : (k == key) = true
    · have gone : Dictionary.get? rest key = none := by
        rw [get?_eq_none_iff]
        intro l member
        by_contra found
        have same : (k == l) = true := BEq.trans here (BEq.symm (by simpa using found))
        rw [apart l member] at same
        cases same
      simp [here, gone]
    · simp [here]

/-! ## Laying over -/

/-- What comes of a dictionary when another one is laid over it and values are read. -/
structure Overlays (read : β → β → Prop) (base added result : Dictionary κ β) : Prop where
  names : result.keys = base.keys ++ added.keys.filter fun k => !base.keys.any (· == k)
  laid : ∀ key v, added.get? key = some v → ∃ w, result.get? key = some w ∧ read v w
  kept : ∀ key v, added.get? key = none → base.get? key = some v →
    ∃ w, result.get? key = some w ∧ read v w

theorem overlays_merge (base : Dictionary κ β) (distinct : Distinct added)
    {read : β → β → Prop} {f : β → β} (reads : ∀ v, read v (f v)) :
    Overlays read base added ((base.merge added).map fun e => (e.1, f e.2)) where
  names := by rw [keys_map, keys_merge base distinct]
  laid := by
    intro key v found
    refine ⟨f v, ?_, reads v⟩
    rw [get?_map, get?_merge_eq base distinct, found]
    rfl
  kept := by
    intro key v left found
    refine ⟨f v, ?_, reads v⟩
    rw [get?_map, get?_merge_eq base distinct, left, found]
    rfl

/-- There is one dictionary only that another one laid over a base can come to. -/
theorem Overlays.eq {f : β → β} {result : Dictionary κ β} (keyed : Keyed base) (upper : Keyed added)
    (overlays : Overlays (fun v w => w = f v) base added result) :
    result = (base.merge added).map fun e => (e.1, f e.2) := by
  have merged : Overlays (fun v w => w = f v) base added _ :=
    overlays_merge base upper.distinct fun _ => rfl
  have same := overlays.names.trans merged.names.symm
  have whole : Keyed result := by
    rw [keyed_congr (same.trans (keys_map _))]
    exact keyed.merge upper
  refine whole.ext same fun k member => ?_
  cases laid : added.get? k with
  | some v =>
    obtain ⟨w, found, rfl⟩ := overlays.laid k v laid
    obtain ⟨w, found', rfl⟩ := merged.laid k v laid
    rw [found, found']
  | none =>
    cases kept : base.get? k with
    | some v =>
      obtain ⟨w, found, rfl⟩ := overlays.kept k v laid kept
      obtain ⟨w, found', rfl⟩ := merged.kept k v laid kept
      rw [found, found']
    | none =>
      -- a key is in one of the two, and stands there under itself
      rw [overlays.names, List.mem_append, List.mem_filter] at member
      rw [get?_eq_none_iff] at laid kept
      rcases member with old | ⟨new, -⟩
      · exact absurd (keyed.self k old) (Bool.eq_false_iff.1 (kept k old))
      · exact absurd (upper.self k new) (Bool.eq_false_iff.1 (laid k new))

theorem overlays_iff {f : β → β} {result : Dictionary κ β} (keyed : Keyed base)
    (upper : Keyed added) : Overlays (fun v w => w = f v) base added result ↔
      result = (base.merge added).map fun e => (e.1, f e.2) :=
  ⟨fun overlays => overlays.eq keyed upper,
    fun same => same ▸ overlays_merge base upper.distinct fun _ => rfl⟩

/-- Laid over the same base, the outcome comes to itself if reading a value twice is reading it
once. -/
theorem merge_map_merge {f : β → β} (keyed : Keyed base) (upper : Keyed added)
    (again : ∀ v, f (f v) = f v) :
    (base.merge ((base.merge added).map fun e => (e.1, f e.2))).map (fun e => (e.1, f e.2))
      = (base.merge added).map fun e => (e.1, f e.2) := by
  have names : keys ((base.merge added).map fun e => (e.1, f e.2)) =
      base.keys ++ added.keys.filter fun k => !base.keys.any (· == k) := by
    rw [keys_map, keys_merge base upper.distinct]
  have whole : Keyed ((base.merge added).map fun e => (e.1, f e.2)) :=
    (keyed_congr (keys_map _)).2 (keyed.merge upper)
  have found : ∀ key, Dictionary.get? ((base.merge added).map fun e => (e.1, f e.2)) key
      = ((added.get? key).or (base.get? key)).map f := by
    intro key
    rw [get?_map, get?_merge_eq base upper.distinct]
  generalize (base.merge added).map (fun e => (e.1, f e.2)) = result at names whole found ⊢
  refine (Overlays.eq keyed whole ⟨?_, ?_, ?_⟩).symm
  · have old : base.keys.filter (fun k => !base.keys.any (· == k)) = [] := by
      refine List.filter_eq_nil_iff.2 fun k member => ?_
      simpa using ⟨k, member, keyed.self k member⟩
    rw [names, List.filter_append, old, List.nil_append, List.filter_filter]
    simp
  · intro key v read
    obtain ⟨u, -, rfl⟩ := Option.map_eq_some_iff.1 (found key ▸ read)
    exact ⟨f u, read, (again u).symm⟩
  · intro key v left kept
    simp [found, kept] at left

end Equivalence

end Merging

end Dictionary

end Hallmark
