/-
# Hallmark.Proofs.Search.Reach -- the states that a search goes through

`Moves` lists what one step can do to a state, with the condition for each; what every
step preserves is read off its five rules.  A search is deterministic, so the states that
it reaches from an entity are linearly ordered, and a type is entered at one of them
only: once it is entered it stays so, and a step enters none but fresh types.  Hence the
depth at which a type is entered is a property of the type (`EntersAt.unique`).
-/
import Mathlib.Logic.Relation
import Hallmark.Proofs.Search.Exploration
import Hallmark.Proofs.Search.Role

namespace Hallmark.Search

set_option autoImplicit false

open Relation

variable {E A T : Type}

/-! ## Steps -/

/-- One step from a state to the next. -/
inductive Moves (M : Model E A T) (c : Settings) : State A T → State A T → Prop where
  | finished {above : List (List A)} {entered : List T} {warned : Bool} :
    Moves M c ⟨[] :: above, entered, warned⟩ ⟨above, entered, warned⟩
  | reserved {a : A} {rest : List A} {above : List (List A)} {entered : List T} {warned : Bool}
    (reserved : M.role c (M.typeOf a) = .ok .reserved) :
    Moves M c ⟨(a :: rest) :: above, entered, warned⟩ ⟨rest :: above, entered, warned⟩
  | revisited {a : A} {rest : List A} {above : List (List A)} {entered : List T} {warned : Bool}
    (ordinary : M.role c (M.typeOf a) = .ok .ordinary) (known : M.typeOf a ∈ entered) :
    Moves M c ⟨(a :: rest) :: above, entered, warned⟩ ⟨rest :: above, entered, warned⟩
  | abandoned {a : A} {rest : List A} {above : List (List A)} {entered : List T} {warned : Bool}
    (ordinary : M.role c (M.typeOf a) = .ok .ordinary) (fresh : M.typeOf a ∉ entered)
    (full : c.depth.levels ≤ above.length) :
    Moves M c ⟨(a :: rest) :: above, entered, warned⟩ ⟨rest :: above, entered, true⟩
  | entered {a : A} {rest : List A} {above : List (List A)} {entered : List T} {warned : Bool}
    (ordinary : M.role c (M.typeOf a) = .ok .ordinary) (fresh : M.typeOf a ∉ entered)
    (room : above.length < c.depth.levels) :
    Moves M c ⟨(a :: rest) :: above, entered, warned⟩
      ⟨M.annotationsOn (M.typeOf a) :: rest :: above, M.typeOf a :: entered, warned⟩

/-- How a search ends in a state. -/
inductive Stops (M : Model E A T) (c : Settings) :
    State A T → Option (Except Fault A) → Prop where
  | nothing {entered : List T} {warned : Bool} : Stops M c ⟨[], entered, warned⟩ none
  | fault {a : A} {rest : List A} {above : List (List A)} {entered : List T} {warned : Bool}
    {f : Fault} (faulty : M.role c (M.typeOf a) = .error f) :
    Stops M c ⟨(a :: rest) :: above, entered, warned⟩ (some (.error f))
  | metadata {a : A} {rest : List A} {above : List (List A)} {entered : List T} {warned : Bool}
    (metadata : M.role c (M.typeOf a) = .ok .metadata) :
    Stops M c ⟨(a :: rest) :: above, entered, warned⟩ (some (.ok a))

variable {M : Model E A T} {c : Settings} {s s' t next : State A T}

theorem Moves.entered_grows (moves : Moves M c s t) : ∀ u ∈ s.entered, u ∈ t.entered := by
  intro u known
  cases moves with
  | finished | reserved | revisited | abandoned => exact known
  | entered => exact List.mem_cons_of_mem _ known

/-- What is entered at a step was not entered before. -/
theorem Moves.fresh {u : T} (moves : Moves M c s t) (entering : t.entered = u :: s.entered) :
    u ∉ s.entered := by
  cases moves with
  | finished | reserved | revisited | abandoned =>
    have longer := congrArg List.length entering
    simp at longer
  | entered _ fresh _ =>
    obtain ⟨rfl, -⟩ := List.cons.inj entering
    exact fresh

/-- A step that enters a type leaves room for it and goes on with its declaration. -/
theorem Moves.of_entering {u : T} (moves : Moves M c s t) (entering : t.entered = u :: s.entered) :
    s.levels.length ≤ c.depth.levels ∧
      ∃ a rest above, s.levels = (a :: rest) :: above ∧ M.typeOf a = u ∧
        t.levels = M.annotationsOn u :: rest :: above := by
  cases moves with
  | finished | reserved | revisited | abandoned =>
    have longer := congrArg List.length entering
    simp at longer
  | @entered a rest above _ _ _ _ room =>
    obtain ⟨rfl, -⟩ := List.cons.inj entering
    have fits : above.length + 1 ≤ c.depth.levels := by omega
    exact ⟨fits, a, rest, above, rfl, rfl, rfl⟩

variable [DecidableEq T]

theorem moves_of_step {events : List Event} (moved : step M c s = .resume events t) :
    Moves M c s t := by
  obtain ⟨levels, entered, warned⟩ := s
  match levels with
  | [] => cases moved
  | [] :: above =>
    cases moved
    exact .finished
  | (a :: rest) :: above =>
    simp only [step] at moved
    split at moved
    · cases moved
    · cases moved
    · rename_i reserved
      cases moved
      exact .reserved reserved
    · rename_i ordinary
      split at moved
      · rename_i known
        cases moved
        exact .revisited ordinary known
      · rename_i fresh
        split at moved
        · rename_i full
          cases moved
          exact .abandoned ordinary fresh full
        · rename_i room
          cases moved
          exact .entered ordinary fresh (Nat.not_le.1 room)

theorem stops_of_step {events : List Event} {answer : Option (Except Fault A)}
    (stopped : step M c s = .stop events answer) : Stops M c s answer := by
  obtain ⟨levels, entered, warned⟩ := s
  match levels with
  | [] =>
    cases stopped
    exact .nothing
  | [] :: above => cases stopped
  | (a :: rest) :: above =>
    simp only [step] at stopped
    split at stopped
    · rename_i faulty
      cases stopped
      exact .fault faulty
    · rename_i metadata
      cases stopped
      exact .metadata metadata
    · cases stopped
    · split at stopped
      · cases stopped
      · split at stopped
        · cases stopped
        · cases stopped

/-- The rules are those of the step function. -/
theorem Moves.exists_step (moves : Moves M c s t) :
    ∃ events, step M c s = .resume events t := by
  cases moves with
  | finished => exact ⟨_, rfl⟩
  | reserved reserved => exact ⟨_, step_reserved M c reserved⟩
  | revisited ordinary known => exact ⟨_, step_revisited M c ordinary known⟩
  | abandoned ordinary fresh full => exact ⟨_, step_abandoned M c ordinary fresh full⟩
  | entered ordinary fresh room => exact ⟨_, step_entered M c ordinary fresh room⟩

theorem moves_rightUnique (M : Model E A T) (c : Settings) : Relator.RightUnique (Moves M c) := by
  intro s t next first second
  obtain ⟨events, moved⟩ := first.exists_step
  obtain ⟨events', moved'⟩ := second.exists_step
  rw [moved] at moved'
  cases moved'
  rfl

/-! ## Runs -/

/-- A step changes neither the answer of a run nor what it has entered in the end. -/
theorem Moves.run_eq (moves : Moves M c s t) :
    (run M c s).answer = (run M c t).answer ∧ (run M c s).entered = (run M c t).entered := by
  obtain ⟨events, moved⟩ := moves.exists_step
  rw [run_of_resume moved]
  exact ⟨rfl, rfl⟩

theorem run_eq_of_moves (moved : ReflTransGen (Moves M c) s t) :
    (run M c s).answer = (run M c t).answer ∧ (run M c s).entered = (run M c t).entered := by
  induction moved with
  | refl => exact ⟨rfl, rfl⟩
  | tail _ moves ih =>
    exact ⟨ih.1.trans moves.run_eq.1, ih.2.trans moves.run_eq.2⟩

/-- A run comes to a state in which it stops, and has entered what is entered there. -/
theorem exists_stops (M : Model E A T) (c : Settings) (s : State A T) :
    ∃ t, ReflTransGen (Moves M c) s t ∧ Stops M c t (run M c s).answer ∧
      (run M c s).entered = t.entered := by
  induction s using run.induct M c with
  | case1 s events answer stopped =>
    rw [run_of_stop stopped]
    exact ⟨s, .refl, stops_of_step stopped, rfl⟩
  | case2 s events next moved ih =>
    obtain ⟨t, onward, stops, last⟩ := ih
    rw [run_of_resume moved]
    exact ⟨t, .head (moves_of_step moved) onward, stops, last⟩

/-- A search fails only on a prefix that is no text. -/
theorem exists_not_text_of_find {e : E} {f : Fault} (failed : (find M c e).answer = .error f) :
    ∃ v ∈ c.reserved, v.text? = none := by
  obtain ⟨t, -, stops, -⟩ := exists_stops M c (start M e)
  have answered := Exploration.answer_of_result (r := .error f) failed
  rw [answered] at stops
  cases stops with
  | fault faulty => exact Settings.exists_not_text_of_role_error faulty

omit [DecidableEq T] in
theorem entered_grows_of_moves (moved : ReflTransGen (Moves M c) s t) :
    ∀ u ∈ s.entered, u ∈ t.entered := by
  induction moved with
  | refl => exact fun u known => known
  | tail _ moves ih => exact fun u known => moves.entered_grows u (ih u known)

/-! ## Where a type is entered -/

/-- A search from `e` comes to the state `s`. -/
def Reached (M : Model E A T) (c : Settings) (e : E) (s : State A T) : Prop :=
  ReflTransGen (Moves M c) (start M e) s

/-- A search from `e` enters the type `t` with `depth` types on its path, `t` included. -/
def EntersAt (M : Model E A T) (c : Settings) (e : E) (t : T) (depth : Nat) : Prop :=
  ∃ s next, Reached M c e s ∧ Moves M c s next ∧ next.entered = t :: s.entered ∧
    s.levels.length = depth

variable {e : E} {u : T} {depth other : Nat}

omit [DecidableEq T] in
/-- After a type has been entered, no later step enters it. -/
theorem not_entering_again (entering : next.entered = u :: s.entered)
    (onward : ReflTransGen (Moves M c) next s') (moves' : Moves M c s' t) :
    t.entered ≠ u :: s'.entered := by
  intro again
  have known : u ∈ next.entered := by
    rw [entering]
    exact List.mem_cons_self
  exact moves'.fresh again (entered_grows_of_moves onward u known)

/-- **A type is entered at one depth only.** -/
theorem EntersAt.unique (first : EntersAt M c e u depth) (second : EntersAt M c e u other) :
    depth = other := by
  obtain ⟨s, next, reached, moves, entering, rfl⟩ := first
  obtain ⟨s', next', reached', moves', entering', rfl⟩ := second
  rcases ReflTransGen.total_of_right_unique (moves_rightUnique M c) reached reached' with
    onward | onward
  · rcases ReflTransGen.cases_head onward with same | ⟨t, first_move, later⟩
    · rw [same]
    · obtain rfl := moves_rightUnique M c first_move moves
      exact absurd entering' (not_entering_again entering later moves')
  · rcases ReflTransGen.cases_head onward with same | ⟨t, first_move, later⟩
    · rw [same]
    · obtain rfl := moves_rightUnique M c first_move moves'
      exact absurd entering (not_entering_again entering' later moves)

omit [DecidableEq T] in
theorem EntersAt.depth_le (entered : EntersAt M c e u depth) : depth ≤ c.depth.levels := by
  obtain ⟨s, next, -, moves, entering, rfl⟩ := entered
  exact (moves.of_entering entering).1

omit [DecidableEq T] in
/-- Whatever is entered in a state was entered on the way there. -/
theorem Reached.exists_entersAt (reached : Reached M c e s) :
    ∀ u ∈ s.entered, ∃ depth, EntersAt M c e u depth := by
  induction reached with
  | refl => exact fun u known => absurd known List.not_mem_nil
  | @tail s t before moves ih =>
    intro u known
    cases moves with
    | finished | reserved | revisited | abandoned => exact ih u known
    | entered ordinary fresh room =>
      rcases List.mem_cons.1 known with rfl | earlier
      · exact ⟨_, _, _, before, .entered ordinary fresh room, rfl, rfl⟩
      · exact ih u earlier

end Hallmark.Search
