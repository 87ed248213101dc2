/-
# Hallmark.Proofs.Query.Group -- where the groups of a text stand

Reading a text from left to right finds exactly its spans: the pairs of brackets, opening
and closing, with no bracket between them.  They are found in the order of their opening
brackets, and the body of a group is the text within its span (`exists_spans`).

The induction takes the text one character longer at a time, as it is read.  The body that
is held belongs to the last bracket of the text, if that is an opening one (`OpenAt`); only
a closing bracket behind it makes a new span, and this lies behind all others.
-/
import Mathlib.Data.List.Induction
import Mathlib.Data.List.TakeWhile
import Hallmark.Query.Group

namespace Hallmark.Query

set_option autoImplicit false

/-- Brackets at two positions stand around a text without brackets. -/
structure Span (cs : List Char) (i j : Nat) : Prop where
  order : i < j
  opened : cs[i]? = some '['
  closed : cs[j]? = some ']'
  bare : ∀ k, i < k → k < j → cs[k]? ≠ some '[' ∧ cs[k]? ≠ some ']'

/-- The text between two positions. -/
def between (cs : List Char) (i j : Nat) : List Char := (cs.take j).drop (i + 1)

/-- The last bracket of a text opens a group. -/
structure OpenAt (cs : List Char) (i : Nat) : Prop where
  opened : cs[i]? = some '['
  bare : ∀ k, i < k → cs[k]? ≠ some '[' ∧ cs[k]? ≠ some ']'

variable {cs : List Char} {c : Char} {i j : Nat}

theorem lt_length_of_getElem? (here : cs[i]? = some c) : i < cs.length :=
  (List.getElem?_eq_some_iff.1 here).1

theorem Span.lt_length (span : Span cs i j) : j < cs.length := lt_length_of_getElem? span.closed

theorem OpenAt.lt_length (open_ : OpenAt cs i) : i < cs.length := lt_length_of_getElem? open_.opened

/-! ## One more character -/

theorem getElem?_snoc (cs : List Char) (c : Char) (i : Nat) :
    (cs ++ [c])[i]? = if i < cs.length then cs[i]? else if i = cs.length then some c else none := by
  rw [List.getElem?_append]
  split
  · rfl
  · rename_i beyond
    rw [List.getElem?_singleton]
    have same : i - cs.length = 0 ↔ i = cs.length := by omega
    simp only [same]

theorem openAt_snoc : OpenAt (cs ++ [c]) i ↔
    (c = '[' ∧ i = cs.length) ∨ (c ≠ '[' ∧ c ≠ ']' ∧ OpenAt cs i) := by
  constructor
  · rintro ⟨opened, bare⟩
    have bound : i < cs.length + 1 := by simpa using lt_length_of_getElem? opened
    rw [getElem?_snoc] at opened
    by_cases inside : i < cs.length
    · rw [if_pos inside] at opened
      have last := bare cs.length inside
      rw [getElem?_snoc, if_neg (Nat.lt_irrefl _), if_pos rfl] at last
      have plain : c ≠ '[' ∧ c ≠ ']' := by simpa using last
      refine .inr ⟨plain.1, plain.2, opened, fun k after => ?_⟩
      by_cases within : k < cs.length
      · have none_ := bare k after
        rw [getElem?_snoc, if_pos within] at none_
        exact none_
      · rw [List.getElem?_eq_none (Nat.not_lt.1 within)]
        simp
    · have last : i = cs.length := by omega
      rw [if_neg inside, if_pos last] at opened
      exact .inl ⟨Option.some.inj opened, last⟩
  · rintro (⟨rfl, rfl⟩ | ⟨no_open, no_close, open_⟩)
    · refine ⟨by simp, fun k after => ?_⟩
      have beyond : (cs ++ ['['])[k]? = none := List.getElem?_eq_none (by simp; omega)
      simp [beyond]
    · refine ⟨?_, fun k after => ?_⟩
      · rw [getElem?_snoc, if_pos open_.lt_length]
        exact open_.opened
      · rw [getElem?_snoc]
        split
        · exact open_.bare k after
        · split
          · simp [no_open, no_close]
          · simp

/-- A new span ends with the new character. -/
theorem span_snoc : Span (cs ++ [c]) i j ↔
    Span cs i j ∨ (c = ']' ∧ j = cs.length ∧ OpenAt cs i) := by
  constructor
  · rintro ⟨order, opened, closed, bare⟩
    have bound : j < cs.length + 1 := by simpa using lt_length_of_getElem? closed
    have inside : i < cs.length := by omega
    rw [getElem?_snoc, if_pos inside] at opened
    rw [getElem?_snoc] at closed
    by_cases within : j < cs.length
    · rw [if_pos within] at closed
      refine .inl ⟨order, opened, closed, fun k after before => ?_⟩
      have none_ := bare k after before
      rw [getElem?_snoc, if_pos (Nat.lt_trans before within)] at none_
      exact none_
    · have last : j = cs.length := by omega
      rw [if_neg within, if_pos last] at closed
      refine .inr ⟨Option.some.inj closed, last, opened, fun k after => ?_⟩
      by_cases earlier : k < cs.length
      · have none_ := bare k after (by omega)
        rw [getElem?_snoc, if_pos earlier] at none_
        exact none_
      · rw [List.getElem?_eq_none (Nat.not_lt.1 earlier)]
        simp
  · rintro (span | ⟨rfl, rfl, open_⟩)
    · have within := span.lt_length
      refine ⟨span.order, ?_, ?_, fun k after before => ?_⟩
      · rw [getElem?_snoc, if_pos (Nat.lt_trans span.order within)]
        exact span.opened
      · rw [getElem?_snoc, if_pos within]
        exact span.closed
      · rw [getElem?_snoc, if_pos (Nat.lt_trans before within)]
        exact span.bare k after before
    · refine ⟨open_.lt_length, ?_, by simp, fun k after before => ?_⟩
      · rw [getElem?_snoc, if_pos open_.lt_length]
        exact open_.opened
      · rw [getElem?_snoc, if_pos before]
        exact open_.bare k after

theorem between_snoc (within : j ≤ cs.length) : between (cs ++ [c]) i j = between cs i j := by
  rw [between, between, List.take_append_of_le_length within]

theorem between_length_snoc (cs : List Char) (c : Char) (i : Nat) :
    between (cs ++ [c]) i cs.length = cs.drop (i + 1) := by
  rw [between_snoc (Nat.le_refl _), between, List.take_length]

/-- The last bracket lies behind every span. -/
theorem OpenAt.behind (open_ : OpenAt cs i) {s t : Nat} (span : Span cs s t) : t < i := by
  rcases Nat.lt_trichotomy t i with before | same | after
  · exact before
  · subst same
    have closed := span.closed
    rw [open_.opened] at closed
    cases closed
  · exact absurd span.closed (open_.bare t after).2

theorem OpenAt.unique (first : OpenAt cs i) (second : OpenAt cs j) : i = j := by
  rcases Nat.lt_trichotomy i j with before | same | after
  · exact absurd second.opened (first.bare j before).1
  · exact same
  · exact absurd first.opened (second.bare i after).1

/-! ## Reading a text -/

/-- What has been read of a text: the body behind its last bracket, if that opens a group,
and the bodies of its spans. -/
structure HasRead (cs : List Char) (g : Grouping) (spans : List (Nat × Nat)) : Prop where
  body : ∀ b, g.body = some b ↔ ∃ i, OpenAt cs i ∧ b = (cs.drop (i + 1)).reverse
  closed : g.closed.reverse = spans.map fun s => between cs s.1 s.2
  ascending : spans.Pairwise fun s t => s.1 < t.1
  mem_iff : ∀ s, s ∈ spans ↔ Span cs s.1 s.2

variable {g : Grouping} {spans : List (Nat × Nat)}

theorem HasRead.nil : HasRead [] Grouping.start [] where
  body b := by
    constructor
    · intro none_
      cases none_
    · rintro ⟨i, open_, -⟩
      exact absurd open_.lt_length (Nat.not_lt_zero i)
  closed := rfl
  ascending := List.Pairwise.nil
  mem_iff s := by
    constructor
    · intro none_
      cases none_
    · intro span
      exact absurd span.lt_length (Nat.not_lt_zero s.2)

/-- Bodies of earlier spans stay what they are. -/
theorem HasRead.map_between (read : HasRead cs g spans) (c : Char) :
    spans.map (fun s => between (cs ++ [c]) s.1 s.2) = spans.map fun s => between cs s.1 s.2 := by
  refine List.map_congr_left fun s member => ?_
  exact between_snoc (Nat.le_of_lt ((read.mem_iff s).1 member).lt_length)

theorem HasRead.snoc_open (read : HasRead cs g spans) :
    HasRead (cs ++ ['[']) ⟨some [], g.closed⟩ spans where
  body b := by
    have open_iff : ∀ i, OpenAt (cs ++ ['[']) i ↔ i = cs.length := by
      intro i
      simp [openAt_snoc]
    simp [open_iff, eq_comm]
  closed := by rw [read.closed, read.map_between]
  ascending := read.ascending
  mem_iff s := by simp [read.mem_iff s, span_snoc]

theorem HasRead.snoc_plain (read : HasRead cs g spans) (no_open : c ≠ '[') (no_close : c ≠ ']') :
    HasRead (cs ++ [c]) ⟨g.body.map (c :: ·), g.closed⟩ spans where
  body b := by
    have open_iff : ∀ i, OpenAt (cs ++ [c]) i ↔ OpenAt cs i := by
      intro i
      simp [openAt_snoc, no_open, no_close]
    simp only [open_iff, Option.map_eq_some_iff, read.body]
    constructor
    · rintro ⟨_, ⟨i, open_, rfl⟩, rfl⟩
      refine ⟨i, open_, ?_⟩
      rw [List.drop_append_of_le_length open_.lt_length, List.reverse_append]
      rfl
    · rintro ⟨i, open_, rfl⟩
      refine ⟨_, ⟨i, open_, rfl⟩, ?_⟩
      rw [List.drop_append_of_le_length open_.lt_length, List.reverse_append]
      rfl
  closed := by rw [read.closed, read.map_between]
  ascending := read.ascending
  mem_iff s := by simp [read.mem_iff s, span_snoc, no_close]

/-- A closing bracket without a group to close is passed over. -/
theorem HasRead.snoc_stray (read : HasRead cs g spans) (shut : g.body = none) :
    HasRead (cs ++ [']']) ⟨none, g.closed⟩ spans := by
  have not_open : ∀ i, ¬ OpenAt cs i := by
    intro i open_
    have held := (read.body _).2 ⟨i, open_, rfl⟩
    rw [shut] at held
    cases held
  refine ⟨fun b => ?_, ?_, read.ascending, fun s => ?_⟩
  · simp [openAt_snoc]
  · rw [read.closed, read.map_between]
  · simp [read.mem_iff s, span_snoc, not_open]

theorem HasRead.snoc_close (read : HasRead cs g spans) {b : List Char} (held : g.body = some b) :
    ∃ i, HasRead (cs ++ [']']) ⟨none, b.reverse :: g.closed⟩ (spans ++ [(i, cs.length)]) := by
  obtain ⟨i, open_, rfl⟩ := (read.body b).1 held
  refine ⟨i, fun b => ?_, ?_, ?_, fun s => ?_⟩
  · simp [openAt_snoc]
  · simp [read.closed, read.map_between, between_length_snoc]
  · refine List.pairwise_append.2 ⟨read.ascending, List.pairwise_singleton _ _, ?_⟩
    intro s member t last
    obtain rfl := List.mem_singleton.1 last
    have span := (read.mem_iff s).1 member
    exact Nat.lt_trans span.order (open_.behind span)
  · have only : ∀ k, OpenAt cs k ↔ k = i := fun k =>
      ⟨fun other => other.unique open_, fun same => same ▸ open_⟩
    simp only [List.mem_append, List.mem_singleton, read.mem_iff s, span_snoc, only, true_and,
      Prod.ext_iff]
    tauto

theorem exists_hasRead (cs : List Char) :
    ∃ spans, HasRead cs (cs.foldl Grouping.read Grouping.start) spans := by
  induction cs using List.reverseRecOn with
  | nil => exact ⟨[], .nil⟩
  | append_singleton cs c ih =>
    obtain ⟨spans, read⟩ := ih
    rw [List.foldl_append, List.foldl_cons, List.foldl_nil, Grouping.read]
    split
    · rename_i opens
      subst opens
      exact ⟨spans, read.snoc_open⟩
    · rename_i no_open
      split
      · rename_i closes
        subst closes
        cases held : (cs.foldl Grouping.read Grouping.start).body with
        | none => exact ⟨spans, read.snoc_stray held⟩
        | some b =>
          obtain ⟨i, longer⟩ := read.snoc_close held
          exact ⟨_, longer⟩
      · rename_i no_close
        exact ⟨spans, read.snoc_plain no_open no_close⟩

/-- **The groups of a text are the texts within its spans**, in the order of the spans. -/
theorem exists_spans (cs : List Char) : ∃ spans : List (Nat × Nat),
    spans.Pairwise (fun s t => s.1 < t.1) ∧ (∀ s, s ∈ spans ↔ Span cs s.1 s.2) ∧
      groups cs = spans.map fun s => between cs s.1 s.2 := by
  obtain ⟨spans, read⟩ := exists_hasRead cs
  exact ⟨spans, read.ascending, read.mem_iff, read.closed⟩

theorem mem_groups_iff {body : List Char} :
    body ∈ groups cs ↔ ∃ i j, Span cs i j ∧ between cs i j = body := by
  obtain ⟨spans, -, listed, same⟩ := exists_spans cs
  rw [same, List.mem_map]
  constructor
  · rintro ⟨s, member, rfl⟩
    exact ⟨s.1, s.2, (listed s).1 member, rfl⟩
  · rintro ⟨i, j, span, rfl⟩
    exact ⟨(i, j), (listed (i, j)).2 span, rfl⟩

/-! ## Text before the first group -/

theorem foldl_read_start (plain : ∀ c ∈ cs, c ≠ '[') :
    cs.foldl Grouping.read Grouping.start = Grouping.start := by
  induction cs with
  | nil => rfl
  | cons c rest ih =>
    have passed : Grouping.start.read c = Grouping.start := by
      rw [Grouping.read, if_neg (plain c List.mem_cons_self)]
      split <;> rfl
    rw [List.foldl_cons, passed]
    exact ih fun d member => plain d (List.mem_cons_of_mem _ member)

/-- The text before the first opening bracket holds no group. -/
theorem groups_dropWhile (cs : List Char) : groups (cs.dropWhile (· ≠ '[')) = groups cs := by
  have plain : ∀ c ∈ cs.takeWhile (· ≠ '['), c ≠ '[' := fun c member => by
    simpa using List.mem_takeWhile_imp member
  have parts := List.takeWhile_append_dropWhile (p := (· ≠ '[')) (l := cs)
  rw [groups, groups, ← congrArg (List.foldl Grouping.read Grouping.start) parts,
    List.foldl_append, foldl_read_start plain]

end Hallmark.Query
