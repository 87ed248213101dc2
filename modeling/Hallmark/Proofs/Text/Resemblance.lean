/-
# Hallmark.Proofs.Text.Resemblance -- how resemblances compare

A likeness is a rate of matched items, and `less` compares rates, whatever totals they are of
(`less_iff`).  Between sequences without an item in common nothing is matched
(`matched_of_apart`): no run is ever better than the empty one.
-/
import Hallmark.Text.Resemblance
import Mathlib.Algebra.Order.Field.Basic
import Mathlib.Data.Rat.Cast.Order

namespace Hallmark.Text

set_option autoImplicit false

/-! ## Nothing in common -/

namespace Resemblance

variable {α : Type} [BEq α]

/-- No item of a sequence is one of another. -/
def Apart (a : List α) (b : List (Item α)) : Prop := ∀ x ∈ a, ∀ y ∈ b, (x == y.1) = false

variable {a : List α} {b : List (Item α)} {x : α}

theorem eq_zero_of_mem_extendRuns (apart : ∀ y ∈ b, (x == y.1) = false) {before : List Nat} {n : Nat}
    (member : n ∈ extendRuns x b before) : n = 0 := by
  obtain ⟨i, inside, rfl⟩ := List.getElem_of_mem member
  have bound : i < b.length := by
    simp only [extendRuns, List.length_zipWith] at inside
    omega
  simp [extendRuns, List.getElem_zipWith, apart _ (List.getElem_mem bound)]

theorem better_of_zeros {i : Nat} {ends : List Nat} (zeros : ∀ n ∈ ends, n = 0) (best : Run) :
    better i ends best = best := by
  unfold better
  generalize 0 = j
  induction ends generalizing j with
  | nil => rfl
  | cons n rest ih =>
    obtain ⟨rfl, others⟩ := List.forall_mem_cons.1 zeros
    exact ih others (j + 1)

theorem foldl_better_of_apart (apart : Apart a b) (best : Run) (i : Nat) (ends : List Nat) :
    (a.foldl (fun (best, i, ends) x =>
      let ends := extendRuns x b ends
      (better i ends best, i + 1, ends)) (best, i, ends)).1 = best := by
  induction a generalizing i ends with
  | nil => rfl
  | cons x rest ih =>
    obtain ⟨first, others⟩ := List.forall_mem_cons.1 apart
    rw [List.foldl_cons]
    dsimp only
    rw [better_of_zeros fun n => eq_zero_of_mem_extendRuns first]
    exact ih others _ _

theorem core_of_apart (apart : Apart a b) : core a b = ⟨0, 0, 0⟩ :=
  foldl_better_of_apart apart _ _ _

theorem sharedFront_of_apart (apart : Apart a b) : sharedFront a b = 0 := by
  cases a with
  | nil => rfl
  | cons x rest =>
    cases b with
    | nil => rfl
    | cons y others =>
      have different : (x == y.1) = false := apart x List.mem_cons_self y List.mem_cons_self
      simp [sharedFront, different]

theorem matchedWithin_of_apart (apart : Apart a b) (fuel : Nat) : matchedWithin fuel a b = 0 := by
  cases fuel with
  | zero => rfl
  | succ fuel =>
    have empty : (widen a b ⟨0, 0, 0⟩).size = 0 := by
      simp [widen, sharedFront, sharedFront_of_apart apart]
    rw [matchedWithin, core_of_apart apart]
    exact if_pos empty

end Resemblance

namespace Likeness

theorem matched_of_apart {α : Type} [BEq α] {a b : List α}
    (apart : ∀ x ∈ a, ∀ y ∈ b, (x == y) = false) : (Likeness.of a b).matched = 0 := by
  refine Resemblance.matchedWithin_of_apart (fun x here item marked => ?_) _
  obtain ⟨y, there, rfl⟩ := List.mem_map.1 marked
  exact apart x here y there

/-- Sequences without an item in common are close only if neither has items. -/
theorem isClose_of_apart {α : Type} [BEq α] {a b : List α}
    (apart : ∀ x ∈ a, ∀ y ∈ b, (x == y) = false) :
    (Likeness.of a b).isClose = true ↔ a = [] ∧ b = [] := by
  have total : (Likeness.of a b).total = a.length + b.length := rfl
  rw [isClose, matched_of_apart apart, total, Bool.or_eq_true, decide_eq_true_iff,
    decide_eq_true_iff, ← List.length_eq_zero_iff, ← List.length_eq_zero_iff]
  omega

/-! ## Rates -/

def rate (l : Likeness) : ℚ := l.weighed.1 / l.weighed.2

theorem weighed_pos (l : Likeness) : 0 < l.weighed.2 := by
  unfold weighed
  split
  · exact Nat.one_pos
  · rename_i some
    exact Nat.pos_of_ne_zero some

theorem less_iff {l m : Likeness} : l.less m = true ↔ l.rate < m.rate := by
  have positive : (0 : ℚ) < l.weighed.2 := Nat.cast_pos.2 l.weighed_pos
  have positive' : (0 : ℚ) < m.weighed.2 := Nat.cast_pos.2 m.weighed_pos
  rw [rate, rate, div_lt_div_iff₀ positive positive']
  norm_cast
  exact decide_eq_true_iff

end Likeness

end Hallmark.Text
