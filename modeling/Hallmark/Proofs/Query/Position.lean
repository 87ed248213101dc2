/-
# Hallmark.Proofs.Query.Position -- groups from a position on

Reading may start at any position of a text.  A negative position counts from the end, and one
that lies outside of the text is moved to its beginning or finds nothing.  What is found are
the spans of the whole text whose opening bracket stands at the position or behind it, in
their order and with the bodies that they have in the whole text (`groupsFrom_eq_spans`).

What stands before the position plays no part, since a span is a matter of the characters
from its opening bracket on: a span of the rest is a span of the text, moved by as many
places as were left out (`span_drop`).
-/
import Mathlib.Data.List.DropRight
import Hallmark.Proofs.Query.Group

namespace Hallmark.Query

set_option autoImplicit false

/-- What stands behind a position; so many of the last characters, if it is negative. -/
def sliceFrom : Int → List Char → List Char
  | .ofNat n, cs => cs.drop n
  | .negSucc n, cs => cs.rtake (n + 1)

variable {cs : List Char} {i j : Nat}

/-! ## The rest of a text -/

theorem span_drop (n : Nat) : Span (cs.drop n) i j ↔ Span cs (n + i) (n + j) := by
  constructor
  · rintro ⟨order, opened, closed, bare⟩
    rw [List.getElem?_drop] at opened closed
    refine ⟨Nat.add_lt_add_left order n, opened, closed, fun k after before => ?_⟩
    have inside := bare (k - n) (by omega) (by omega)
    rwa [List.getElem?_drop, Nat.add_sub_cancel' (by omega)] at inside
  · rintro ⟨order, opened, closed, bare⟩
    rw [← List.getElem?_drop] at opened closed
    refine ⟨Nat.lt_of_add_lt_add_left order, opened, closed, fun k after before => ?_⟩
    rw [List.getElem?_drop]
    exact bare (n + k) (Nat.add_lt_add_left after n) (Nat.add_lt_add_left before n)

theorem between_drop (cs : List Char) (n i j : Nat) :
    between (cs.drop n) i j = between cs (n + i) (n + j) := by
  rw [between, between, List.take_drop, List.drop_drop, Nat.add_assoc]

/-- The groups of the rest of a text are the spans of the text that begin there. -/
theorem exists_spans_drop (n : Nat) (cs : List Char) : ∃ spans : List (Nat × Nat),
    spans.Pairwise (fun s t => s.1 < t.1) ∧ (∀ s, s ∈ spans ↔ Span cs s.1 s.2 ∧ n ≤ s.1) ∧
      groups (cs.drop n) = spans.map fun s => between cs s.1 s.2 := by
  obtain ⟨spans, ascending, listed, same⟩ := exists_spans (cs.drop n)
  refine ⟨spans.map fun s => (n + s.1, n + s.2), ?_, fun ⟨i, j⟩ => ?_, ?_⟩
  · exact List.pairwise_map.2 (ascending.imp fun before => Nat.add_lt_add_left before n)
  · simp only [List.mem_map, listed, span_drop, Prod.mk.injEq]
    constructor
    · rintro ⟨s, span, rfl, rfl⟩
      exact ⟨span, Nat.le_add_right n s.1⟩
    · rintro ⟨span, later⟩
      have order := span.order
      have first : n + (i - n) = i := by omega
      have last : n + (j - n) = j := by omega
      exact ⟨(i - n, j - n), by rwa [first, last], first, last⟩
  · rw [same, List.map_map]
    exact List.map_congr_left fun s _ => between_drop cs n s.1 s.2

/-! ## Where reading starts -/

theorem startOf_eq (length : Nat) (start : Int) :
    (startOf length start : Int) = if start < 0 then max 0 (length + start) else start := by
  unfold startOf
  split <;> omega

theorem drop_startOf (start : Int) (cs : List Char) :
    cs.drop (startOf cs.length start) = sliceFrom start cs := by
  have place := startOf_eq cs.length start
  cases start with
  | ofNat n =>
    have here : startOf cs.length (.ofNat n) = n := by
      rw [Int.ofNat_eq_natCast, if_neg (Int.not_lt.2 (Int.natCast_nonneg n))] at place
      exact Int.ofNat_inj.1 place
    rw [here, sliceFrom]
  | negSucc n =>
    have here : startOf cs.length (.negSucc n) = cs.length - (n + 1) := by
      rw [if_pos (Int.negSucc_lt_zero n)] at place
      omega
    rw [here, sliceFrom, List.rtake]

/-- **The groups from a position on** are the texts within the spans that begin there or
later, in the order of these spans; and they are the groups of what stands behind it. -/
theorem groupsFrom_eq_spans (start : Int) (cs : List Char) :
    (∃ spans : List (Nat × Nat),
      spans.Pairwise (fun s t => s.1 < t.1) ∧
      (∀ s, s ∈ spans ↔ Span cs s.1 s.2 ∧
        (if start < 0 then max 0 (cs.length + start) else start) ≤ s.1) ∧
      groupsFrom start cs = spans.map fun s => between cs s.1 s.2) ∧
    groupsFrom start cs = groupsFrom 0 (sliceFrom start cs) := by
  refine ⟨?_, ?_⟩
  · obtain ⟨spans, ascending, listed, same⟩ := exists_spans_drop (startOf cs.length start) cs
    refine ⟨spans, ascending, fun s => ?_, same⟩
    rw [listed, ← startOf_eq, Int.ofNat_le]
  · rw [groupsFrom, drop_startOf]
    rfl

/-- From within a group on, that group is not found, nor one that is opened once more. -/
example : groupsFrom (-7) "[a][b[c]".toList = [['c']] := by decide

end Hallmark.Query
