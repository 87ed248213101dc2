/-
# Hallmark.Proofs.Search.Exploration -- the stack of a search is a nest of recursive calls

`run` keeps a stack of half-read lists; `explore` recurses.  `Explores` is the recursion
as a relation, one rule for each thing that can happen to the first annotation of a list,
so that a fact about searches is proved by one induction with a case for each rule.

The simulation is `run_of_explores`: whatever lies below a list on the stack, running
the stack is exploring the list and then, if that gave no answer, running what lies
below with the types entered and the warning as the exploration left them.  The lists
below are the calls that wait.  The limit is the same on both sides as long as the room
that is left and the height of the stack below add up to it.
-/
import Hallmark.Search.Recursive

namespace Hallmark

set_option autoImplicit false

variable {E A T : Type}

/-- What a search does with an annotation of a type of the model. -/
abbrev Model.role (M : Model E A T) (c : Settings) (t : T) : Except Fault Role :=
  c.role (M.name t)

namespace Search

/-- An exploration before which some events were reported. -/
def Exploration.after (events : List Event) (x : Exploration A T) : Exploration A T :=
  { x with events := events ++ x.events }

/-- An exploration that goes on with another one unless it has an answer. -/
def Exploration.orElse (x y : Exploration A T) : Exploration A T :=
  if x.answer.isSome then x else y.after x.events

namespace Exploration

variable {x : Exploration A T}

theorem orElse_of_answered (answered : x.answer.isSome) (y : Exploration A T) :
    x.orElse y = x := by
  simp [orElse, answered]

theorem orElse_of_open (open_ : x.answer = none) (y : Exploration A T) :
    x.orElse y = y.after x.events := by
  simp [orElse, open_]

theorem result_of_answered (answered : x.answer.isSome) : x.result.answer ≠ .ok none := by
  obtain ⟨r, here⟩ := Option.isSome_iff_exists.1 answered
  rw [result, here]
  cases r with
  | ok a => exact fun same => by cases same
  | error f => exact fun same => by cases same

theorem answer_of_nothing (nothing : x.result.answer = .ok none) : x.answer = none := by
  by_cases answered : x.answer.isSome
  · exact absurd nothing (result_of_answered answered)
  · simpa using answered

/-- A result that is there is the answer. -/
theorem answer_of_result {r : Except Fault A} (ended : x.result.answer = some <$> r) :
    x.answer = some r := by
  rw [result] at ended
  cases answer : x.answer with
  | none =>
    rw [answer] at ended
    cases r with
    | ok a => cases ended
    | error f => cases ended
  | some s =>
    rw [answer] at ended
    cases r with
    | ok a =>
      cases s with
      | ok b =>
        cases ended
        rfl
      | error g => cases ended
    | error f =>
      cases s with
      | ok b => cases ended
      | error g =>
        cases ended
        rfl

theorem after_orElse (events : List Event) (x y : Exploration A T) :
    (x.after events).orElse y = (x.orElse y).after events := by
  by_cases answered : x.answer.isSome
  · simp [orElse, after, answered]
  · simp [orElse, after, answered]

end Exploration

/-! ## The recursion, rule by rule -/

/-- `Explores M c room entered warned l x`: with so much room left, these types entered
and the limit reported or not, looking through the annotations `l` is the exploration
`x`. -/
inductive Explores (M : Model E A T) (c : Settings) :
    Nat → List T → Bool → List A → Exploration A T → Prop where
  | nothing (room : Nat) (entered : List T) (warned : Bool) :
    Explores M c room entered warned [] ⟨[], entered, warned, none⟩
  | fault {room : Nat} {entered : List T} {warned : Bool} {a : A} {rest : List A} {f : Fault}
    (faulty : M.role c (M.typeOf a) = .error f) :
    Explores M c room entered warned (a :: rest) ⟨[], entered, warned, some (.error f)⟩
  | metadata {room : Nat} {entered : List T} {warned : Bool} {a : A} {rest : List A}
    (metadata : M.role c (M.typeOf a) = .ok .metadata) :
    Explores M c room entered warned (a :: rest)
      ⟨[.found (M.name (M.typeOf a)) (c.depth.levels - room)], entered, warned, some (.ok a)⟩
  | reserved {room : Nat} {entered : List T} {warned : Bool} {a : A} {rest : List A}
    {x : Exploration A T} (reserved : M.role c (M.typeOf a) = .ok .reserved)
    (later : Explores M c room entered warned rest x) :
    Explores M c room entered warned (a :: rest) x
  | revisited {room : Nat} {entered : List T} {warned : Bool} {a : A} {rest : List A}
    {x : Exploration A T} (ordinary : M.role c (M.typeOf a) = .ok .ordinary)
    (known : M.typeOf a ∈ entered) (later : Explores M c room entered warned rest x) :
    Explores M c room entered warned (a :: rest) (x.after [.revisited (M.name (M.typeOf a))])
  | abandoned {entered : List T} {warned : Bool} {a : A} {rest : List A}
    {x : Exploration A T} (ordinary : M.role c (M.typeOf a) = .ok .ordinary)
    (fresh : M.typeOf a ∉ entered) (later : Explores M c 0 entered true rest x) :
    Explores M c 0 entered warned (a :: rest)
      (x.after (if warned then [] else [.abandoned c.depth.written (M.name (M.typeOf a))]))
  | answered {room : Nat} {entered : List T} {warned : Bool} {a : A} {rest : List A}
    {x : Exploration A T} (ordinary : M.role c (M.typeOf a) = .ok .ordinary)
    (fresh : M.typeOf a ∉ entered)
    (below : Explores M c room (M.typeOf a :: entered) warned (M.annotationsOn (M.typeOf a)) x)
    (answered : x.answer.isSome) :
    Explores M c (room + 1) entered warned (a :: rest) x
  | returned {room : Nat} {entered : List T} {warned : Bool} {a : A} {rest : List A}
    {x y : Exploration A T} (ordinary : M.role c (M.typeOf a) = .ok .ordinary)
    (fresh : M.typeOf a ∉ entered)
    (below : Explores M c room (M.typeOf a :: entered) warned (M.annotationsOn (M.typeOf a)) x)
    (open_ : x.answer = none)
    (later : Explores M c (room + 1) x.entered x.warned rest y) :
    Explores M c (room + 1) entered warned (a :: rest) (y.after x.events)

/-! ## What an exploration leaves behind -/

section Explores

variable {M : Model E A T} {c : Settings} {room : Nat} {entered : List T} {warned : Bool}
  {l : List A} {x : Exploration A T}

theorem Explores.entered_grows (explored : Explores M c room entered warned l x) :
    ∀ t ∈ entered, t ∈ x.entered := by
  induction explored with
  | nothing | fault | metadata => exact fun t known => known
  | reserved _ _ ih | revisited _ _ _ ih | abandoned _ _ _ ih => exact ih
  | answered _ _ _ _ ih => exact fun t known => ih t (List.mem_cons_of_mem _ known)
  | returned _ _ _ _ _ ih_below ih_later =>
    exact fun t known => ih_later t (ih_below t (List.mem_cons_of_mem _ known))

/-- A report of the depth limit is not taken back. -/
theorem Explores.warned_stays (explored : Explores M c room entered warned l x)
    (late : warned = true) : x.warned = true := by
  induction explored with
  | nothing | fault | metadata => exact late
  | reserved _ _ ih | revisited _ _ _ ih => exact ih late
  | abandoned _ _ _ ih => exact ih rfl
  | answered _ _ _ _ ih => exact ih late
  | returned _ _ _ _ _ ih_below ih_later => exact ih_later (ih_below late)

theorem Explores.unwarned_before (explored : Explores M c room entered warned l x)
    (quiet : x.warned = false) : warned = false := by
  cases warned with
  | false => rfl
  | true =>
    rw [explored.warned_stays rfl] at quiet
    cases quiet

/-- The limit is reached with a warning among the events, or was before. -/
theorem Explores.exists_warning (explored : Explores M c room entered warned l x)
    (late : x.warned = true) : warned = true ∨ ∃ event ∈ x.events, event.level = .warning := by
  induction explored with
  | nothing | fault | metadata => exact .inl late
  | reserved _ _ ih => exact ih late
  | revisited _ _ _ ih =>
    exact (ih late).imp_right fun ⟨event, member, level⟩ =>
      ⟨event, List.mem_append_right _ member, level⟩
  | @abandoned _ warned _ _ _ _ _ _ _ =>
    cases warned with
    | true => exact .inl rfl
    | false => exact .inr ⟨_, List.mem_append_left _ List.mem_cons_self, rfl⟩
  | answered _ _ _ _ ih => exact ih late
  | returned _ _ _ _ _ ih_below ih_later =>
    rcases ih_later late with before | ⟨event, member, level⟩
    · exact (ih_below before).imp_right fun ⟨event, member, level⟩ =>
        ⟨event, List.mem_append_left _ member, level⟩
    · exact .inr ⟨event, List.mem_append_right _ member, level⟩

end Explores

variable [DecidableEq T]

/-- The recursion follows the rules. -/
theorem explores (M : Model E A T) (c : Settings) (room : Nat) (entered : List T) (warned : Bool)
    (l : List A) : Explores M c room entered warned l (explore M c room entered warned l) := by
  induction room generalizing entered warned l with
  | zero =>
    induction l generalizing warned with
    | nil =>
      rw [explore]
      exact .nothing 0 entered warned
    | cons a rest ih =>
      rw [explore]
      split
      · rename_i faulty
        exact .fault faulty
      · rename_i metadata
        exact .metadata metadata
      · rename_i reserved
        exact .reserved reserved (ih warned)
      · rename_i ordinary
        split
        · rename_i known
          exact .revisited ordinary known (ih warned)
        · rename_i fresh
          exact .abandoned ordinary fresh (ih true)
  | succ room deeper =>
    induction l generalizing entered warned with
    | nil =>
      rw [explore]
      exact .nothing (room + 1) entered warned
    | cons a rest ih =>
      rw [explore]
      split
      · rename_i faulty
        exact .fault faulty
      · rename_i metadata
        exact .metadata metadata
      · rename_i reserved
        exact .reserved reserved (ih entered warned)
      · rename_i ordinary
        split
        · rename_i known
          exact .revisited ordinary known (ih entered warned)
        · rename_i fresh
          have below := deeper (M.typeOf a :: entered) warned (M.annotationsOn (M.typeOf a))
          dsimp only
          split
          · rename_i answered
            exact .answered ordinary fresh below answered
          · rename_i open_
            exact .returned ordinary fresh below (by simpa using open_) (ih _ _)

/-! ## One step -/

section Step

variable (M : Model E A T) (c : Settings) {a : A} {rest : List A} {above : List (List A)}
  {entered : List T} {warned : Bool}

theorem step_nothing : step M c ⟨[], entered, warned⟩ = .stop [] none := rfl

theorem step_fault {f : Fault} (faulty : M.role c (M.typeOf a) = .error f) :
    step M c ⟨(a :: rest) :: above, entered, warned⟩ = .stop [] (some (.error f)) := by
  simp [step, faulty]

theorem step_metadata (metadata : M.role c (M.typeOf a) = .ok .metadata) :
    step M c ⟨(a :: rest) :: above, entered, warned⟩
      = .stop [.found (M.name (M.typeOf a)) above.length] (some (.ok a)) := by
  simp [step, metadata]

theorem step_reserved (reserved : M.role c (M.typeOf a) = .ok .reserved) :
    step M c ⟨(a :: rest) :: above, entered, warned⟩ = .resume [] ⟨rest :: above, entered, warned⟩ := by
  simp [step, reserved]

variable (ordinary : M.role c (M.typeOf a) = .ok .ordinary)
include ordinary

theorem step_revisited (known : M.typeOf a ∈ entered) :
    step M c ⟨(a :: rest) :: above, entered, warned⟩
      = .resume [.revisited (M.name (M.typeOf a))] ⟨rest :: above, entered, warned⟩ := by
  simp [step, ordinary, known]

theorem step_abandoned (fresh : M.typeOf a ∉ entered) (full : c.depth.levels ≤ above.length) :
    step M c ⟨(a :: rest) :: above, entered, warned⟩
      = .resume (if warned then [] else [.abandoned c.depth.written (M.name (M.typeOf a))])
          ⟨rest :: above, entered, true⟩ := by
  simp [step, ordinary, fresh, full]

theorem step_entered (fresh : M.typeOf a ∉ entered) (room : above.length < c.depth.levels) :
    step M c ⟨(a :: rest) :: above, entered, warned⟩
      = .resume [] ⟨M.annotationsOn (M.typeOf a) :: rest :: above, M.typeOf a :: entered, warned⟩ := by
  simp [step, ordinary, fresh, Nat.not_le.2 room]

end Step

section Run

variable {M : Model E A T} {c : Settings} {s t : State A T} {events : List Event}

theorem run_of_stop {answer : Option (Except Fault A)} (stopped : step M c s = .stop events answer) :
    run M c s = ⟨events, s.entered, s.warned, answer⟩ := by
  rw [run]
  split
  · rename_i stops
    rw [stopped] at stops
    cases stops
    rfl
  · rename_i moves
    rw [stopped] at moves
    cases moves

theorem run_of_resume (moved : step M c s = .resume events t) :
    run M c s = (run M c t).after events := by
  rw [run]
  split
  · rename_i stops
    rw [moved] at stops
    cases stops
  · rename_i moves
    rw [moved] at moves
    cases moves
    rfl

end Run

/-! ## The simulation -/

variable {M : Model E A T} {c : Settings}

/-- Running a stack is exploring its first list and then running what lies below. -/
theorem run_of_explores {room : Nat} {entered : List T} {warned : Bool} {l : List A}
    {x : Exploration A T} (explored : Explores M c room entered warned l x)
    (above : List (List A)) (fits : room + above.length = c.depth.levels) :
    run M c ⟨l :: above, entered, warned⟩ = x.orElse (run M c ⟨above, x.entered, x.warned⟩) := by
  induction explored generalizing above with
  | nothing room entered warned =>
    rw [run_of_resume (t := ⟨above, entered, warned⟩) rfl, Exploration.orElse_of_open rfl]
  | fault faulty =>
    rw [run_of_stop (step_fault M c faulty), Exploration.orElse_of_answered rfl]
  | @metadata room _ _ _ _ metadata =>
    have depth : c.depth.levels - room = above.length := by omega
    rw [run_of_stop (step_metadata M c metadata), Exploration.orElse_of_answered rfl, depth]
  | reserved reserved later ih =>
    rw [run_of_resume (step_reserved M c reserved), ih above fits]
    rfl
  | revisited ordinary known later ih =>
    rw [run_of_resume (step_revisited M c ordinary known), ih above fits,
      ← Exploration.after_orElse]
    rfl
  | abandoned ordinary fresh later ih =>
    have full : c.depth.levels ≤ above.length := by omega
    rw [run_of_resume (step_abandoned M c ordinary fresh full), ih above fits,
      ← Exploration.after_orElse]
    rfl
  | @answered room _ _ _ rest _ ordinary fresh below answered ih =>
    have room_left : above.length < c.depth.levels := by omega
    have fits_below : room + (rest :: above).length = c.depth.levels := by
      simp only [List.length_cons]
      omega
    rw [run_of_resume (step_entered M c ordinary fresh room_left), ih (rest :: above) fits_below,
      Exploration.orElse_of_answered answered, Exploration.orElse_of_answered answered]
    rfl
  | @returned room _ _ _ rest _ _ ordinary fresh below open_ later ih_below ih_later =>
    have room_left : above.length < c.depth.levels := by omega
    have fits_below : room + (rest :: above).length = c.depth.levels := by
      simp only [List.length_cons]
      omega
    rw [run_of_resume (step_entered M c ordinary fresh room_left),
      ih_below (rest :: above) fits_below, Exploration.orElse_of_open open_,
      ih_later above fits, ← Exploration.after_orElse]
    rfl

/-- What the rules say of the annotations of an entity is what a run from it is. -/
theorem run_eq_of_explores {e : E} {x : Exploration A T}
    (explored : Explores M c c.depth.levels [] false (M.annotations e) x) :
    run M c (start M e) = x := by
  rw [start, run_of_explores explored [] (by simp), run_of_stop (step_nothing M c)]
  by_cases answered : x.answer.isSome
  · exact Exploration.orElse_of_answered answered _
  · have open_ : x.answer = none := by simpa using answered
    rw [Exploration.orElse_of_open open_]
    simp [Exploration.after, ← open_]

theorem explores_run (M : Model E A T) (c : Settings) (e : E) :
    Explores M c c.depth.levels [] false (M.annotations e) (run M c (start M e)) := by
  have explored := explores M c c.depth.levels [] false (M.annotations e)
  rw [run_eq_of_explores explored]
  exact explored

/-- Metadata that stands first is found at once. -/
theorem find_of_first {e : E} {a : A} {rest : List A} (listed : M.annotations e = a :: rest)
    (metadata : M.role c (M.typeOf a) = .ok .metadata) :
    find M c e = ⟨[.found (M.name (M.typeOf a)) 0], .ok (some a)⟩ := by
  have explored : Explores M c c.depth.levels [] false (M.annotations e)
      ⟨[.found (M.name (M.typeOf a)) (c.depth.levels - c.depth.levels)], [], false, some (.ok a)⟩ := by
    rw [listed]
    exact .metadata metadata
  rw [find, run_eq_of_explores explored, Nat.sub_self]
  rfl

/-- **A search is the plain recursion**: the same events, the same types entered in the
same order, the same answer. -/
theorem search_eq_recursion (M : Model E A T) (c : Settings) (e : E) :
    run M c (start M e) = explore M c c.depth.levels [] false (M.annotations e) ∧
      find M c e = findRecursively M c e := by
  have same := run_eq_of_explores (explores M c c.depth.levels [] false (M.annotations e))
  refine ⟨same, ?_⟩
  rw [find, findRecursively, same]

end Search

end Hallmark
