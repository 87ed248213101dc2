/-
# Hallmark.Proofs.Search.DepthLimit -- what the depth limit hides

A type that is entered as the last one that the limit allows shows the metadata that it
lists, but what lies below its ordinary types is left out.  It stays entered all the
same, and when a shorter path comes to it later it is passed over.  So the limit does not
only cut long paths: metadata within it is found exactly if some chain of types leads
there of which no type but the last was entered at the limit (`find_within_limit`).

Two invariants carry the two directions.  A state of a search is `Nested`: its lists are
what is left of the declarations along a trail of types, each entered at its place in the
trail, so that a search that stops has such a chain on its stack.  And when nothing is
found, every list was looked through in the end (`levelsSettled_of_nothing`): the types
it lists are entered, unless it stood at the limit.
-/
import Hallmark.Graph.Basic
import Hallmark.Proofs.Search.Role
import Hallmark.Proofs.Search.Reach

namespace Hallmark.Search

set_option autoImplicit false

open Relation

variable {E A T : Type}

/-- `Chain M c l ts a`: from the annotations `l`, through the ordinary types `ts`, one
comes to the metadata annotation `a`. -/
inductive Chain (M : Model E A T) (c : Settings) : List A → List T → A → Prop where
  | here {l : List A} {a : A} (member : a ∈ l)
    (metadata : M.role c (M.typeOf a) = .ok .metadata) : Chain M c l [] a
  | through {l : List A} {b a : A} {ts : List T} (member : b ∈ l)
    (ordinary : M.role c (M.typeOf b) = .ok .ordinary)
    (below : Chain M c (M.annotationsOn (M.typeOf b)) ts a) : Chain M c l (M.typeOf b :: ts) a

/-! ## The trail on the stack -/

/-- `Nested M c e levels l ts`: the levels are what is left of the annotations of `e` and
of the declarations of the types `ts`, the last one first; `l` is all that the deepest of
them lists, and each type was entered at its place. -/
inductive Nested (M : Model E A T) (c : Settings) (e : E) :
    List (List A) → List A → List T → Prop where
  | entity {rest : List A} (part : rest ⊆ M.annotations e) :
    Nested M c e [rest] (M.annotations e) []
  | type {levels : List (List A)} {l rest : List A} {ts : List T} {a : A}
    (below : Nested M c e levels l ts) (member : a ∈ l)
    (ordinary : M.role c (M.typeOf a) = .ok .ordinary)
    (entered : EntersAt M c e (M.typeOf a) (ts.length + 1))
    (part : rest ⊆ M.annotationsOn (M.typeOf a)) :
    Nested M c e (rest :: levels) (M.annotationsOn (M.typeOf a)) (M.typeOf a :: ts)

variable {M : Model E A T} {c : Settings} {e : E} {s t : State A T} {above : List (List A)}
  {l rest : List A} {a : A} {ts us : List T}

theorem Nested.top_subset (nested : Nested M c e (rest :: above) l ts) : rest ⊆ l := by
  cases nested with
  | entity part => exact part
  | type _ _ _ _ part => exact part

theorem Nested.length_eq (nested : Nested M c e (rest :: above) l ts) :
    above.length = ts.length := by
  generalize same : rest :: above = levels at nested
  induction nested generalizing rest above with
  | entity =>
    cases same
    rfl
  | @type levels _ _ _ _ below _ _ _ _ ih =>
    cases same
    cases below with
    | entity => rfl
    | type => simpa using ih rfl

theorem Nested.tail (nested : Nested M c e ((a :: rest) :: above) l ts) :
    Nested M c e (rest :: above) l ts := by
  cases nested with
  | entity part => exact .entity (List.subset_of_cons_subset part)
  | type below member ordinary entered part =>
    exact .type below member ordinary entered (List.subset_of_cons_subset part)

theorem Nested.length_le (nested : Nested M c e (rest :: above) l ts) :
    ts.length ≤ c.depth.levels := by
  cases nested with
  | entity => exact Nat.zero_le _
  | type _ _ _ entered _ => exact entered.depth_le

/-- What has ended leaves the list below it on top. -/
theorem Nested.pop (nested : Nested M c e ([] :: above) l ts) :
    above = [] ∨ ∃ l ts, Nested M c e above l ts := by
  cases nested with
  | entity => exact .inl rfl
  | type below => exact .inr ⟨_, _, below⟩

/-- A search is nested until it is done. -/
theorem Reached.nested (reached : Reached M c e s) :
    s.levels = [] ∨ ∃ l ts, Nested M c e s.levels l ts := by
  induction reached with
  | refl => exact .inr ⟨_, _, .entity (List.Subset.refl _)⟩
  | @tail s t before moves ih =>
    rcases ih with done | ⟨l, ts, nested⟩
    · cases moves <;> cases done
    · cases moves with
      | finished => exact nested.pop
      | reserved | revisited | abandoned => exact .inr ⟨l, ts, nested.tail⟩
      | @entered a rest above entered warned ordinary fresh room =>
        have depth : ((a :: rest) :: above).length = ts.length + 1 := by
          have same := nested.length_eq
          simp only [List.length_cons]
          omega
        have entered_here : EntersAt M c e (M.typeOf a) (ts.length + 1) :=
          ⟨_, _, before, .entered ordinary fresh room, rfl, depth⟩
        have listed : a ∈ l := nested.top_subset List.mem_cons_self
        exact .inr ⟨_, _, .type nested.tail listed ordinary entered_here (List.Subset.refl _)⟩

/-- A chain from the deepest list is, with the trail before it, a chain from the entity. -/
theorem Nested.chain (nested : Nested M c e above l ts) (chain : Chain M c l us a) :
    Chain M c (M.annotations e) (ts.reverse ++ us) a := by
  induction nested generalizing us with
  | entity => exact chain
  | type _ member ordinary _ _ ih =>
    rw [List.reverse_cons, List.append_assoc]
    exact ih (.through member ordinary chain)

/-- The types of a trail were entered at their places in it. -/
theorem Nested.entersAt (nested : Nested M c e above l ts) {u : T} {vs : List T}
    (suffix : u :: vs <:+ ts) : EntersAt M c e u (vs.length + 1) := by
  induction nested with
  | entity => simp at suffix
  | type _ _ _ entered _ ih =>
    rcases List.suffix_cons_iff.1 suffix with whole | inner
    · obtain ⟨rfl, rfl⟩ := List.cons.inj whole
      exact entered
    · exact ih inner

variable [DecidableEq T]

/-- Within the trail, only the deepest type can have been entered at the limit. -/
theorem Nested.not_entersAt_limit (nested : Nested M c e above l ts)
    (fits : ts.length ≤ c.depth.levels) {u : T} (member : u ∈ ts.reverse.dropLast) :
    ¬ EntersAt M c e u c.depth.levels := by
  intro at_limit
  rw [List.dropLast_reverse, List.mem_reverse] at member
  obtain ⟨before, after, split⟩ := List.append_of_mem member
  match ts with
  | [] => cases member
  | deepest :: ts =>
    simp only [List.tail_cons] at split
    have suffix : u :: after <:+ deepest :: ts :=
      ⟨deepest :: before, by rw [split, List.cons_append]⟩
    have shallow := (nested.entersAt suffix).unique at_limit
    have length := congrArg List.length split
    simp only [List.length_append, List.length_cons] at length fits
    omega

/-- An answer has an uncut chain within the limit to it. -/
theorem exists_chain_of_found (found : (run M c (start M e)).answer = some (.ok a)) :
    M.role c (M.typeOf a) = .ok .metadata ∧
      ∃ ts, Chain M c (M.annotations e) ts a ∧ ts.length ≤ c.depth.levels ∧
        ∀ t ∈ ts.dropLast, ¬ EntersAt M c e t c.depth.levels := by
  obtain ⟨s, reached, stops, -⟩ := exists_stops M c (start M e)
  rw [found] at stops
  cases stops with
  | @metadata _ rest above _ _ metadata =>
    rcases Reached.nested reached with done | ⟨l, ts, nested⟩
    · cases done
    · have listed : a ∈ l := nested.top_subset List.mem_cons_self
      refine ⟨metadata, ts.reverse, ?_, ?_, ?_⟩
      · simpa using nested.chain (.here listed metadata)
      · simpa using nested.length_le
      · exact fun t member => nested.not_entersAt_limit nested.length_le member

/-! ## What is left when nothing is found -/

/-- Each annotation of a list is passed over in the end: its type is reserved, or it is
ordinary and, unless the list stood at the limit, entered. -/
def SettledAt (M : Model E A T) (c : Settings) (entered : List T) (height : Nat) (l : List A) :
    Prop :=
  ∀ a ∈ l, M.role c (M.typeOf a) = .ok .reserved ∨
    (M.role c (M.typeOf a) = .ok .ordinary ∧ (height < c.depth.levels → M.typeOf a ∈ entered))

/-- The same of all levels, each at its height. -/
def LevelsSettled (M : Model E A T) (c : Settings) (entered : List T) : List (List A) → Prop
  | [] => True
  | l :: above => SettledAt M c entered above.length l ∧ LevelsSettled M c entered above

omit [DecidableEq T] in
theorem LevelsSettled.cons {entered : List T}
    (passed : M.role c (M.typeOf a) = .ok .reserved ∨
      (M.role c (M.typeOf a) = .ok .ordinary ∧
        (above.length < c.depth.levels → M.typeOf a ∈ entered)))
    (settled : LevelsSettled M c entered (rest :: above)) :
    LevelsSettled M c entered ((a :: rest) :: above) :=
  ⟨List.forall_mem_cons.2 ⟨passed, settled.1⟩, settled.2⟩

/-- A run that finds nothing has looked through all that was left. -/
theorem levelsSettled_of_nothing (nothing : (run M c s).answer = none) :
    LevelsSettled M c (run M c s).entered s.levels := by
  obtain ⟨t, moved, stops, last⟩ := exists_stops M c s
  rw [nothing] at stops
  rw [last]
  induction moved using ReflTransGen.head_induction_on with
  | refl =>
    cases stops with
    | nothing => trivial
  | @head s next moves onward ih =>
    have final := ih (moves.run_eq.1.symm.trans nothing) (moves.run_eq.2.symm.trans last)
    have grown := entered_grows_of_moves onward
    cases moves with
    | finished => exact ⟨fun a member => absurd member List.not_mem_nil, final⟩
    | reserved reserved => exact final.cons (.inl reserved)
    | revisited ordinary known =>
      exact final.cons (.inr ⟨ordinary, fun _ => grown _ known⟩)
    | abandoned ordinary fresh full =>
      exact final.cons (.inr ⟨ordinary, fun room => absurd full (Nat.not_le.2 room)⟩)
    | entered ordinary fresh room =>
      exact final.2.cons (.inr ⟨ordinary, fun _ => grown _ List.mem_cons_self⟩)

/-- Where nothing is found, the declaration of each type that was entered has been looked
through at the depth where it was. -/
theorem EntersAt.settledAt (nothing : (run M c (start M e)).answer = none) {u : T} {depth : Nat}
    (entered : EntersAt M c e u depth) :
    SettledAt M c (run M c (start M e)).entered depth (M.annotationsOn u) := by
  obtain ⟨s, next, reached, moves, entering, rfl⟩ := entered
  obtain ⟨-, a, rest, above, levels, -, next_levels⟩ := moves.of_entering entering
  have same := run_eq_of_moves (reached.tail moves)
  have settled := levelsSettled_of_nothing (same.1.symm.trans nothing)
  rw [next_levels] at settled
  rw [same.2, levels]
  exact settled.1

theorem exists_entersAt_of_mem_run {u : T} (member : u ∈ (run M c (start M e)).entered) :
    ∃ depth, EntersAt M c e u depth := by
  obtain ⟨t, reached, -, last⟩ := exists_stops M c (start M e)
  rw [last] at member
  exact Reached.exists_entersAt reached u member

omit [DecidableEq T] in
theorem SettledAt.not_metadata {entered : List T} {height : Nat}
    (settled : SettledAt M c entered height l) (member : a ∈ l) :
    M.role c (M.typeOf a) ≠ .ok .metadata := by
  intro metadata
  rcases settled a member with reserved | ⟨ordinary, -⟩
  · simp [metadata] at reserved
  · simp [metadata] at ordinary

/-- Where nothing is found, every chain is cut by a type that was entered at the limit. -/
theorem Chain.exists_cut (nothing : (run M c (start M e)).answer = none)
    (chain : Chain M c l ts a) {height : Nat} (room : height < c.depth.levels)
    (settled : SettledAt M c (run M c (start M e)).entered height l) :
    ∃ t ∈ ts.dropLast, EntersAt M c e t c.depth.levels := by
  induction chain generalizing height with
  | here member metadata => exact absurd metadata (settled.not_metadata member)
  | @through l b a ts member ordinary below ih =>
    have known : M.typeOf b ∈ (run M c (start M e)).entered := by
      rcases settled b member with reserved | ⟨-, enters⟩
      · simp [ordinary] at reserved
      · exact enters room
    obtain ⟨depth, entered⟩ := exists_entersAt_of_mem_run known
    have below_settled := entered.settledAt nothing
    rcases Nat.lt_or_eq_of_le entered.depth_le with within | rfl
    · obtain ⟨u, inner, at_limit⟩ := ih within below_settled
      have nonempty : ts ≠ [] := fun empty => by simp [empty] at inner
      rw [List.dropLast_cons_of_ne_nil nonempty]
      exact ⟨u, List.mem_cons_of_mem _ inner, at_limit⟩
    · cases below with
      | here inner metadata => exact absurd metadata (below_settled.not_metadata inner)
      | through => exact ⟨M.typeOf b, List.mem_cons_self, entered⟩

/-! ## Whole searches -/

/-- **What a search finds within the limit.** An annotation that is found is metadata at the
end of a chain no longer than the limit, of which no type but the last was entered at the
limit; nothing is found only if every chain, however short, has such a type before its
last; a fault comes from a prefix that is no text. -/
theorem find_within_limit (M : Model E A T) (c : Settings) (e : E) :
    match (find M c e).answer with
    | .ok (some a) => M.role c (M.typeOf a) = .ok .metadata ∧
      ∃ ts, Chain M c (M.annotations e) ts a ∧ ts.length ≤ c.depth.levels ∧
        ∀ t ∈ ts.dropLast, ¬ EntersAt M c e t c.depth.levels
    | .ok none => ∀ ts a, Chain M c (M.annotations e) ts a →
      ∃ t ∈ ts.dropLast, EntersAt M c e t c.depth.levels
    | .error _ => ∃ v ∈ c.reserved, v.text? = none := by
  obtain ⟨s, reached, stops, -⟩ := exists_stops M c (start M e)
  rw [find]
  cases answer : (run M c (start M e)).answer with
  | none =>
    simp only [Exploration.result, answer]
    intro ts a chain
    have settled := levelsSettled_of_nothing answer
    exact chain.exists_cut answer c.depth.positive settled.1
  | some r =>
    rw [answer] at stops
    cases r with
    | ok a =>
      simp only [Exploration.result, answer]
      exact exists_chain_of_found answer
    | error f =>
      simp only [Exploration.result, answer]
      cases stops with
      | fault faulty => exact Settings.exists_not_text_of_role_error faulty

/-! ## A shortcut that is hidden -/

namespace Shortcut

open Document

/-- The entity leads to `t.B` by way of `t.A` and `t.X`, and also at once. -/
def graph : Graph where
  entities := [(.text "e", [⟨"t.A", []⟩, ⟨"t.B", []⟩])]
  types := [(.text "t.A", [⟨"t.X", []⟩]), (.text "t.X", [⟨"t.B", []⟩]),
    (.text "t.B", [⟨"t.C", []⟩]),
    (.text "t.C", [⟨Settings.defaultMetadataType, [(.text "kind", .text "Near")]⟩])]
  defaults := []

def two : Settings := { Settings.default with depth := ⟨2, .whole 2, by decide⟩ }

def three : Settings := { Settings.default with depth := ⟨3, .whole 3, by decide⟩ }

def near : graph.Listed :=
  ⟨⟨Settings.defaultMetadataType, [(.text "kind", .text "Near")]⟩, by decide⟩

def direct : graph.Listed := ⟨⟨"t.B", []⟩, by decide⟩

def onward : graph.Listed := ⟨⟨"t.C", []⟩, by decide⟩

def entity : Graph.Target := .entity (.text "e")

/-- With a limit of three the way round enters `t.B` as the last type allowed. -/
theorem run_three : (run graph.model three (start graph.model entity)).answer = none := by
  rw [run_eq_of_explores (c := three) (e := entity)
    (.returned rfl (by decide)
      (.returned rfl (by decide)
        (.returned rfl (by decide) (.abandoned rfl (by decide) (.nothing 0 _ _)) rfl (.nothing 1 _ _))
        rfl (.nothing 2 _ _))
      rfl (.revisited rfl (by decide) (.nothing 3 _ _)))]
  rfl

theorem run_two : (run graph.model two (start graph.model entity)).answer = some (.ok near) := by
  rw [run_eq_of_explores (c := two) (e := entity)
    (.returned rfl (by decide)
      (.returned rfl (by decide) (.abandoned rfl (by decide) (.nothing 0 _ _)) rfl (.nothing 1 _ _))
      rfl (.answered rfl (by decide) (.answered rfl (by decide) (.metadata rfl) rfl) rfl))]
  rfl

/-- Metadata two types deep is missed with a limit of three, and found with two. -/
theorem shortcut_hidden :
    (∃ ts, Chain graph.model three (graph.model.annotations entity) ts near ∧
      ts.length ≤ three.depth.levels) ∧
      (find graph.model three entity).answer = .ok none ∧
      (find graph.model two entity).answer = .ok (some near) := by
  refine ⟨⟨["t.B", "t.C"], ?_, by decide⟩, ?_, ?_⟩
  · have listed_b : direct ∈ graph.model.annotations entity := .tail _ (.head _)
    have listed_c : onward ∈ graph.model.annotationsOn "t.B" := .head _
    have listed_near : near ∈ graph.model.annotationsOn "t.C" := .head _
    exact .through listed_b rfl (.through listed_c rfl (.here listed_near rfl))
  · rw [find, Exploration.result, run_three]
  · rw [find, Exploration.result, run_two]
    rfl

end Shortcut

end Hallmark.Search
