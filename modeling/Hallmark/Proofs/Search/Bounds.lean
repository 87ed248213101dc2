/-
# Hallmark.Proofs.Search.Bounds -- how far a search can go

A search has no infinite run, whatever cycles there are, since each step enters a new type or
leaves less to look at.  While it lasts, the lists on its stack are what is left of the
declarations of some types, the last one entered first, and at the bottom of the annotations
of the entity.  `Opened` follows these types along the run: entering a type puts it in front,
and the end of a list takes it away.

The invariant (`Orderly`) is that they are pairwise distinct, ordinary and entered, that no
type was entered twice, and that there are no more of them than the limit allows.  So the
limit is reported only where as many distinct ordinary types lie on the stack, and the type
that is abandoned there is one more: a model without that many ordinary types is searched
without a warning, and no search reports the limit more than once
(`search_keeps_bounds`).
-/
import Mathlib.Data.List.Forall2
import Mathlib.Data.Set.Card
import Hallmark.Proofs.Search.DepthLimit

namespace Hallmark.Search

set_option autoImplicit false

open Relation

variable {E A T : Type}

/-- The types of annotations that are neither reserved nor the metadata type. -/
def ordinaryTypes (M : Model E A T) (c : Settings) : Set T :=
  {t | (∃ a, M.typeOf a = t) ∧ c.isReserved (M.name t) = .ok false ∧
    c.metadataType ≠ .text (M.name t)}

/-- `Opened M c e s ts`: a search from `e` comes to the state `s`, and of the types that it has
entered it is looking through the declarations of `ts`, the last one first. -/
inductive Opened (M : Model E A T) (c : Settings) (e : E) : State A T → List T → Prop where
  | start : Opened M c e (start M e) []
  | enters {s t : State A T} {ts : List T} {u : T} (before : Opened M c e s ts)
    (moves : Moves M c s t) (entering : t.entered = u :: s.entered) : Opened M c e t (u :: ts)
  | leaves {s t : State A T} {ts : List T} (before : Opened M c e s ts)
    (moves : Moves M c s t) (finished : s.levels = [] :: t.levels) : Opened M c e t ts.tail
  | stays {s t : State A T} {ts : List T} (before : Opened M c e s ts)
    (moves : Moves M c s t) (same : t.entered = s.entered)
    (level : t.levels.length = s.levels.length) : Opened M c e t ts

/-- What is so of a state in which the declarations of some types are being looked through. -/
structure Orderly (M : Model E A T) (c : Settings) (e : E) (s : State A T) (ts : List T) :
    Prop where
  height : s.levels.length ≤ c.depth.levels + 1
  once : s.entered.Nodup
  distinct : ts.Nodup
  entered : ts ⊆ s.entered
  ordinary : ∀ t ∈ ts, t ∈ ordinaryTypes M c
  /-- Each list is the rest of what its type lists, unless the search is done. -/
  lists : (s.levels = [] ∧ ts = []) ∨
    List.Forall₂ (· <:+ ·) s.levels (ts.map M.annotationsOn ++ [M.annotations e])

variable {M : Model E A T} {c : Settings} {e : E} {s t : State A T} {ts : List T} {u : T}

theorem mem_ordinaryTypes_iff {a : A} :
    M.typeOf a ∈ ordinaryTypes M c ↔ M.role c (M.typeOf a) = .ok .ordinary := by
  constructor
  · rintro ⟨-, unreserved, different⟩
    rcases Settings.role_of_unreserved unreserved with metadata | ordinary
    · exact absurd (Settings.role_eq_metadata_iff.1 metadata) different
    · exact ordinary
  · intro ordinary
    exact ⟨⟨a, rfl⟩, Settings.isReserved_of_ordinary ordinary,
      Settings.metadataType_ne_of_ordinary ordinary⟩

theorem ordinaryTypes_subset (M : Model E A T) (c : Settings) :
    ordinaryTypes M c ⊆ {t | t ∈ M.types} := by
  rintro _ ⟨⟨a, rfl⟩, -⟩
  exact M.typeOf_mem a

/-! ## One step -/

theorem Orderly.start (M : Model E A T) (c : Settings) (e : E) :
    Orderly M c e (start M e) [] where
  height := Nat.le_add_left 1 _
  once := List.nodup_nil
  distinct := List.nodup_nil
  entered := List.nil_subset _
  ordinary := fun _ member => absurd member List.not_mem_nil
  lists := .inr (.cons (List.suffix_refl _) .nil)

/-- What is behind the first annotation of the deepest list is the rest of a list, too. -/
theorem Orderly.passed {a : A} {rest : List A} {above : List (List A)}
    (orderly : Orderly M c e s ts) (levels : s.levels = (a :: rest) :: above) :
    List.Forall₂ (· <:+ ·) (rest :: above) (ts.map M.annotationsOn ++ [M.annotations e]) := by
  rcases orderly.lists with ⟨done, -⟩ | lists
  · simp [levels] at done
  · rw [levels] at lists
    generalize ts.map M.annotationsOn ++ [M.annotations e] = listed at lists ⊢
    cases lists with
    | cons first others => exact .cons ((List.suffix_cons a rest).trans first) others

theorem Orderly.enters (orderly : Orderly M c e s ts) (moves : Moves M c s t)
    (entering : t.entered = u :: s.entered) : Orderly M c e t (u :: ts) := by
  cases moves with
  | finished | reserved | revisited | abandoned =>
    exact absurd entering.symm (List.cons_ne_self _ _)
  | @entered a rest above _ _ ordinary fresh room =>
    obtain ⟨rfl, -⟩ := List.cons.inj entering
    exact {
      height := by
        simp only [List.length_cons]
        omega
      once := List.nodup_cons.2 ⟨fresh, orderly.once⟩
      distinct := List.nodup_cons.2 ⟨fun again => fresh (orderly.entered again), orderly.distinct⟩
      entered := List.cons_subset_cons _ orderly.entered
      ordinary := List.forall_mem_cons.2 ⟨mem_ordinaryTypes_iff.2 ordinary, orderly.ordinary⟩
      lists := .inr (.cons (List.suffix_refl _) (orderly.passed rfl)) }

theorem Orderly.leaves (orderly : Orderly M c e s ts) (moves : Moves M c s t)
    (finished : s.levels = [] :: t.levels) : Orderly M c e t ts.tail := by
  cases moves with
  | reserved | revisited | abandoned | entered => cases finished
  | finished =>
    exact {
      height := Nat.le_of_succ_le orderly.height
      once := orderly.once
      distinct := orderly.distinct.tail
      entered := fun u member => orderly.entered (List.mem_of_mem_tail member)
      ordinary := fun u member => orderly.ordinary u (List.mem_of_mem_tail member)
      lists := by
        rcases orderly.lists with ⟨done, -⟩ | lists
        · cases done
        · cases ts with
          | nil =>
            cases lists with
            | cons _ others =>
              cases others
              exact .inl ⟨rfl, rfl⟩
          | cons u ts =>
            cases lists with
            | cons _ others => exact .inr others }

theorem Orderly.stays (orderly : Orderly M c e s ts) (moves : Moves M c s t)
    (same : t.entered = s.entered) (level : t.levels.length = s.levels.length) :
    Orderly M c e t ts := by
  cases moves with
  | finished => simp at level
  | entered => exact absurd same (List.cons_ne_self _ _)
  | reserved | revisited | abandoned =>
    exact ⟨orderly.height, orderly.once, orderly.distinct, orderly.entered, orderly.ordinary,
      .inr (orderly.passed rfl)⟩

/-- Every state that a search comes to is orderly. -/
theorem Opened.orderly (opened : Opened M c e s ts) : Orderly M c e s ts := by
  induction opened with
  | start => exact .start M c e
  | enters _ moves entering ih => exact ih.enters moves entering
  | leaves _ moves finished ih => exact ih.leaves moves finished
  | stays _ moves same level ih => exact ih.stays moves same level

theorem Reached.exists_opened (reached : Reached M c e s) : ∃ ts, Opened M c e s ts := by
  induction reached with
  | refl => exact ⟨[], .start⟩
  | tail _ moves ih =>
    obtain ⟨ts, opened⟩ := ih
    have move := moves
    cases move with
    | finished => exact ⟨ts.tail, opened.leaves moves rfl⟩
    | reserved | revisited | abandoned => exact ⟨ts, opened.stays moves rfl rfl⟩
    | entered => exact ⟨_, opened.enters moves rfl⟩

/-! ## Whole runs -/

variable [DecidableEq T]

/-- There is no infinite run. -/
theorem moves_wellFounded (M : Model E A T) (c : Settings) :
    WellFounded fun t s => Moves M c s t := by
  have order := WellFounded.prod_lex Nat.lt_wfRel.wf Nat.lt_wfRel.wf
  refine Subrelation.wf (fun {t s} moves => ?_)
    (InvImage.wf (fun s : State A T => ((unentered M s).length, pending s)) order)
  obtain ⟨events, moved⟩ := Moves.exists_step moves
  exact step_decreases M c moved

/-- An ordinary type that is not entered for lack of room. -/
structure Abandons (M : Model E A T) (c : Settings) (s : State A T) (a : A) : Prop where
  ordinary : M.role c (M.typeOf a) = .ok .ordinary
  fresh : M.typeOf a ∉ s.entered
  full : c.depth.levels < s.levels.length

omit [DecidableEq T] in
/-- The limit is first reported where a type is abandoned. -/
theorem Moves.exists_abandons (moves : Moves M c s t) (early : s.warned = false)
    (late : t.warned = true) : ∃ a, Abandons M c s a := by
  cases moves with
  | finished | reserved | revisited | entered =>
    exact absurd (early.symm.trans late) Bool.false_ne_true
  | @abandoned a _ _ _ _ ordinary fresh full => exact ⟨a, ordinary, fresh, Nat.lt_succ_of_le full⟩

theorem exists_abandons_of_warned (early : s.warned = false) (late : (run M c s).warned = true) :
    ∃ t a, ReflTransGen (Moves M c) s t ∧ Abandons M c t a := by
  induction s using run.induct M c with
  | case1 s events answer stopped =>
    rw [run_of_stop stopped] at late
    exact absurd late (by simp [early])
  | case2 s events next moved ih =>
    have moves := moves_of_step moved
    rw [run_of_resume moved] at late
    cases reported : next.warned with
    | true =>
      obtain ⟨a, abandons⟩ := moves.exists_abandons early reported
      exact ⟨s, a, .refl, abandons⟩
    | false =>
      obtain ⟨t, a, onward, abandons⟩ := ih reported late
      exact ⟨t, a, .head moves onward, abandons⟩

/-- Where a type is abandoned there are more ordinary types than the limit allows. -/
theorem Orderly.limit_lt_ncard {a : A} (orderly : Orderly M c e s ts)
    (abandons : Abandons M c s a) : c.depth.levels < (ordinaryTypes M c).ncard := by
  have distinct : (M.typeOf a :: ts).Nodup :=
    List.nodup_cons.2 ⟨fun again => abandons.fresh (orderly.entered again), orderly.distinct⟩
  have ordinary : ((M.typeOf a :: ts).toFinset : Set T) ⊆ ordinaryTypes M c := by
    intro t member
    rw [Finset.mem_coe, List.mem_toFinset] at member
    exact List.forall_mem_cons.2 ⟨mem_ordinaryTypes_iff.2 abandons.ordinary, orderly.ordinary⟩
      t member
  have finite := M.types.finite_toSet.subset (ordinaryTypes_subset M c)
  have most := Set.ncard_le_ncard ordinary finite
  rw [Set.ncard_coe_finset, List.toFinset_card_of_nodup distinct, List.length_cons] at most
  have full := abandons.full
  have open_ : s.levels.length = ts.length + 1 := by
    rcases orderly.lists with ⟨done, -⟩ | lists
    · simp [done] at full
    · simpa using lists.length_eq
  omega

/-! ## Warnings -/

def isWarning (event : Event) : Bool := event.level = .warning

omit [DecidableEq T] in
/-- The events hold one warning if the limit came to be reported, and none otherwise. -/
theorem Explores.countP_isWarning {room : Nat} {entered : List T} {warned : Bool} {l : List A}
    {x : Exploration A T} (explored : Explores M c room entered warned l x) :
    x.events.countP isWarning + warned.toNat = x.warned.toNat := by
  induction explored with
  | nothing | fault => simp
  | metadata => simp [isWarning, Event.level]
  | reserved _ _ ih => exact ih
  | revisited _ _ _ ih => simpa [Exploration.after, isWarning, Event.level] using ih
  | @abandoned _ warned _ _ _ _ _ _ ih =>
    cases warned with
    | true => simpa [Exploration.after] using ih
    | false => simpa [Exploration.after, isWarning, Event.level] using ih
  | answered _ _ _ _ ih => exact ih
  | returned _ _ _ _ _ ih_below ih_later =>
    simp only [Exploration.after, List.countP_append]
    omega

/-- **A search keeps its bounds.** No run is infinite, and the run from an entity comes to a
state in which it stops; on the way every state is orderly.  The limit is reported once at
most, and not at all if it allows as many types as there are ordinary ones. -/
theorem search_keeps_bounds (M : Model E A T) (c : Settings) (e : E) :
    (WellFounded fun t s => Moves M c s t) ∧
    (∃ t, Reached M c e t ∧ Stops M c t (run M c (start M e)).answer) ∧
    (∀ s, Reached M c e s → ∃ ts, Opened M c e s ts) ∧
    (∀ s ts, Opened M c e s ts → Orderly M c e s ts) ∧
    (find M c e).events.countP isWarning ≤ 1 ∧
    ((ordinaryTypes M c).ncard ≤ c.depth.levels →
      (find M c e).events.countP isWarning = 0) := by
  have count : (find M c e).events.countP isWarning = (run M c (start M e)).warned.toNat := by
    have counted := (explores_run M c e).countP_isWarning
    rwa [Bool.toNat_false, Nat.add_zero] at counted
  refine ⟨moves_wellFounded M c, ?_, fun s reached => reached.exists_opened,
    fun s ts opened => opened.orderly, ?_, fun room => ?_⟩
  · obtain ⟨t, reached, stops, -⟩ := exists_stops M c (start M e)
    exact ⟨t, reached, stops⟩
  · rw [count]
    exact Bool.toNat_le _
  · rw [count, Bool.toNat_eq_zero]
    refine Bool.eq_false_iff.2 fun late => ?_
    obtain ⟨t, a, reached, abandons⟩ := exists_abandons_of_warned (s := start M e) rfl late
    obtain ⟨ts, opened⟩ := Reached.exists_opened reached
    have more := opened.orderly.limit_lt_ncard abandons
    omega

/-! ## A limit that is just enough -/

namespace Mutual

open Document

/-- Two types that are annotated with themselves and with each other. -/
def graph : Graph where
  entities := [(.text "e", [⟨"t.A", []⟩, ⟨"t.A", []⟩])]
  types := [(.text "t.A", [⟨"t.A", []⟩, ⟨"t.B", []⟩]), (.text "t.B", [⟨"t.A", []⟩, ⟨"t.B", []⟩])]
  defaults := []

def settings : Settings := { Settings.default with depth := ⟨2, .whole 2, Nat.le_add_left 1 1⟩ }

def entity : Graph.Target := .entity (.text "e")

theorem ncard_le : (ordinaryTypes graph.model settings).ncard ≤ 2 := by
  have listed : ordinaryTypes graph.model settings ⊆ (graph.mentioned.toFinset : Set String) := by
    rw [List.coe_toFinset]
    exact ordinaryTypes_subset graph.model settings
  have most := Set.ncard_le_ncard listed (Finset.finite_toSet _)
  rw [Set.ncard_coe_finset] at most
  exact most.trans (by decide)

/-- From an entity that lists one of two types twice, a limit of two is not reported. -/
theorem unwarned_mutual : (find graph.model settings entity).events.countP isWarning = 0 := by
  obtain ⟨-, -, -, -, -, quiet⟩ := search_keeps_bounds graph.model settings entity
  exact quiet ncard_le

end Mutual

end Hallmark.Search
