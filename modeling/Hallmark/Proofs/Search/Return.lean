/-
# Hallmark.Proofs.Search.Return -- coming back to the type where a search started

Searching a type looks through its declaration without entering it, so that it is entered
when the search comes back to it; searching an entity annotated with the type alone
enters it first.  The first search takes the least route from the declaration and the
second the least one that does not return (`eq_or_diverted`).  They end apart only
if the least route returns to the type although, through the same first annotation, other
metadata is reached without returning.

If instead no route that stays away begins where the returning one does, then none of the
types on the way back leads anywhere but through the start.  So the least route that
stays away meets none of them, and what follows the return is that route.
-/
import Hallmark.Proofs.Search.Room
import Hallmark.Proofs.Search.LeastRoute

namespace Hallmark

set_option autoImplicit false

open Document

namespace Search

variable {E A T : Type}

/-! ## Ways to a type -/

/-- `Way M c t passed l ps met`: from `l`, and without the types `passed`, the positions
`ps` lead to an annotation of the ordinary type `t`; `met` are the types passed then. -/
inductive Way (M : Model E A T) (c : Settings) (t : T) :
    List T → List A → List Nat → List T → Prop where
  | arrive {passed : List T} {l : List A} {i : Nat} {a : A} (here : l[i]? = some a)
    (typed : M.typeOf a = t) (ordinary : M.role c (M.typeOf a) = .ok .ordinary)
    (fresh : M.typeOf a ∉ passed) : Way M c t passed l [i] passed
  | through {passed met : List T} {l : List A} {i : Nat} {a : A} {ps : List Nat}
    (here : l[i]? = some a) (ordinary : M.role c (M.typeOf a) = .ok .ordinary)
    (fresh : M.typeOf a ∉ t :: passed)
    (below : Way M c t (M.typeOf a :: passed) (M.annotationsOn (M.typeOf a)) ps met) :
    Way M c t passed l (i :: ps) met

variable {M : Model E A T} {c : Settings} {t : T} {passed more met : List T} {l : List A}
  {back onward ps qs : List Nat} {r q : Except Fault A}

theorem Route.anti (route : Route M c more l ps r) (fewer : ∀ u ∈ passed, u ∈ more) :
    Route M c passed l ps r := by
  induction route generalizing passed with
  | arrive here decides => exact .arrive here decides
  | through here ordinary fresh below ih =>
    refine .through here ordinary (fun known => fresh (fewer _ known)) (ih fun u member => ?_)
    rcases List.mem_cons.1 member with rfl | known
    · exact List.mem_cons_self
    · exact List.mem_cons_of_mem _ (fewer u known)

/-- What follows a return stays away from the type returned to. -/
theorem Route.away (route : Route M c (t :: met) l ps r) : Route M c [t] l ps r :=
  route.anti (List.cons_subset_cons t (List.nil_subset met))

/-- A route that stays away from a type is a route. -/
theorem Route.of_away (route : Route M c [t] l ps r) : Route M c [] l ps r :=
  route.anti (List.nil_subset [t])

theorem Way.passed_subset (way : Way M c t passed l ps met) : ∀ u ∈ passed, u ∈ met := by
  induction way with
  | arrive => exact fun u known => known
  | through _ _ _ _ ih => exact fun u known => ih u (List.mem_cons_of_mem _ known)

theorem Way.ne_nil (way : Way M c t passed l ps met) : ps ≠ [] := by
  cases way <;> simp

/-- A way and a route from its end that does not meet it again are a route. -/
theorem Way.route (way : Way M c t passed l back met)
    (onwards : Route M c (t :: met) (M.annotationsOn t) onward r) :
    Route M c passed l (back ++ onward) r := by
  induction way with
  | arrive here typed ordinary fresh =>
    subst typed
    exact .through here ordinary fresh onwards
  | through here ordinary fresh _ ih =>
    exact .through here ordinary (fun known => fresh (List.mem_cons_of_mem _ known)) (ih onwards)

/-- A route stays away from a type or is a way there and a route on. -/
theorem Route.avoids_or_returns (route : Route M c passed l ps r) (t : T) :
    Route M c (t :: passed) l ps r ∨
      ∃ back onward met, ps = back ++ onward ∧ Way M c t passed l back met ∧
        Route M c (t :: met) (M.annotationsOn t) onward r := by
  induction route with
  | arrive here decides => exact .inl (.arrive here decides)
  | @through passed l i a ps r here ordinary fresh below ih =>
    by_cases typed : M.typeOf a = t
    · subst typed
      exact .inr ⟨[i], ps, passed, rfl, .arrive here rfl ordinary fresh, below⟩
    · have away : M.typeOf a ∉ t :: passed := by
        intro member
        rcases List.mem_cons.1 member with same | known
        · exact typed same
        · exact fresh known
      rcases ih with avoids | ⟨back, onward, met, rfl, way, onwards⟩
      · refine .inl (.through here ordinary away (avoids.anti fun u member => ?_))
        simp only [List.mem_cons] at member ⊢
        tauto
      · exact .inr ⟨i :: back, onward, met, rfl, .through here ordinary away way, onwards⟩

/-- A route avoids some types, or its part after the last of them does. -/
theorem Route.avoids_or_meets (route : Route M c passed l ps r) (met : List T) :
    Route M c (met ++ passed) l ps r ∨
      ∃ u ∈ met, ∃ qs, Route M c (met ++ passed) (M.annotationsOn u) qs r := by
  induction route with
  | arrive here decides => exact .inl (.arrive here decides)
  | @through passed l i a ps r here ordinary fresh below ih =>
    have weaker : ∀ u ∈ met ++ passed, u ∈ met ++ M.typeOf a :: passed := by
      intro u member
      simp only [List.mem_append, List.mem_cons] at member ⊢
      tauto
    rcases ih with avoids | ⟨u, member, qs, later⟩
    · by_cases meets : M.typeOf a ∈ met
      · exact .inr ⟨M.typeOf a, meets, ps, avoids.anti weaker⟩
      · have away : M.typeOf a ∉ met ++ passed := by
          intro member
          rcases List.mem_append.1 member with inside | known
          · exact meets inside
          · exact fresh known
        refine .inl (.through here ordinary away (avoids.anti fun u member => ?_))
        simp only [List.mem_append, List.mem_cons] at member ⊢
        tauto
    · exact .inr ⟨u, member, qs, later.anti weaker⟩

/-- From a type that a way meets, a route that avoids the way and its end can be joined to
the first part of the way. -/
theorem Way.exists_route (way : Way M c t passed l back met) {u : T} (member : u ∈ met)
    (new : u ∉ passed) (later : Route M c (t :: met) (M.annotationsOn u) qs r) :
    ∃ ps, Route M c (t :: passed) l ps r ∧ ps.head? = back.head? := by
  induction way with
  | arrive => exact absurd member new
  | @through passed met l i a back here ordinary fresh below ih =>
    have onwards : ∃ ps, Route M c (t :: M.typeOf a :: passed) (M.annotationsOn (M.typeOf a)) ps r := by
      by_cases first : u = M.typeOf a
      · subst first
        refine ⟨qs, later.anti (List.cons_subset_cons t ?_)⟩
        exact below.passed_subset
      · have still_new : u ∉ M.typeOf a :: passed := by
          intro known
          rcases List.mem_cons.1 known with same | earlier
          · exact first same
          · exact new earlier
        obtain ⟨ps, route, -⟩ := ih member still_new later
        exact ⟨ps, route⟩
    obtain ⟨ps, route⟩ := onwards
    refine ⟨i :: ps, .through here ordinary fresh (route.anti fun w known => ?_), rfl⟩
    simp only [List.mem_cons] at known ⊢
    tauto

/-! ## Returning for other metadata -/

/-- The least route from the declaration of `t` returns to `t`, and the least one that stays
away from `t` begins at the same annotation and ends at another one. -/
def Diverted (M : Model E A T) (c : Settings) (t : T) : Prop :=
  ∃ i back met onward beside a b,
    Way M c t [] (M.annotationsOn t) (i :: back) met ∧
    IsLeastRoute M c [] (M.annotationsOn t) (i :: back ++ onward) (.ok a) ∧
    IsLeastRoute M c [t] (M.annotationsOn t) (i :: beside) (.ok b) ∧ a ≠ b

variable {a b : A}

/-- If the route that stays away begins elsewhere, it is what follows the return. -/
theorem Way.onward_eq {i j : Nat} {beside : List Nat}
    (way : Way M c t [] (M.annotationsOn t) (i :: back) met)
    (onwards : Route M c (t :: met) (M.annotationsOn t) onward r)
    (least : IsLeastRoute M c [] (M.annotationsOn t) (i :: back ++ onward) r)
    (away : IsLeastRoute M c [t] (M.annotationsOn t) (j :: beside) q)
    (elsewhere : i ≠ j) : onward = j :: beside := by
  have from_start : ∀ u ∈ t :: met, u ∈ met ++ [t] := by
    intro u member
    simp only [List.mem_append, List.mem_cons, List.not_mem_nil, or_false] at member ⊢
    exact member.symm
  rcases away.route.avoids_or_meets met with avoids | ⟨u, member, qs, later⟩
  · have joined : Route M c [] (M.annotationsOn t) (i :: back ++ j :: beside) q :=
      way.route (avoids.anti from_start)
    have not_after : ¬ j :: beside < onward := fun before =>
      least.least _ _ joined (List.append_left_lt before)
    have not_before : ¬ onward < j :: beside := away.least _ _ onwards.away
    exact List.le_antisymm not_after not_before
  · exfalso
    obtain ⟨ps, route, head⟩ := way.exists_route member List.not_mem_nil (later.anti from_start)
    have after : ¬ j < i := fun before =>
      least.least _ _ away.route.of_away (List.cons_lt_cons_iff.2 (.inl before))
    have before : ¬ i < j := by
      obtain ⟨ps, rfl⟩ : ∃ rest, ps = i :: rest := List.head?_eq_some_iff.1 head
      exact fun after => away.least _ _ route (List.cons_lt_cons_iff.2 (.inl after))
    omega

theorem eq_or_diverted (least : IsLeastRoute M c [] (M.annotationsOn t) ps (.ok a))
    (away : IsLeastRoute M c [t] (M.annotationsOn t) qs (.ok b)) : a = b ∨ Diverted M c t := by
  by_cases same : a = b
  · exact .inl same
  · refine .inr ?_
    rcases least.route.avoids_or_returns t with avoids | ⟨back, onward, met, rfl, way, onwards⟩
    · have also_least : IsLeastRoute M c [t] (M.annotationsOn t) ps (.ok a) :=
        ⟨avoids, fun qs q route => least.least qs q route.of_away⟩
      cases (also_least.unique away).2
      exact absurd rfl same
    · match back, qs with
      | [], _ => exact absurd rfl way.ne_nil
      | _, [] => exact absurd rfl away.route.ne_nil
      | i :: back, j :: beside =>
        by_cases elsewhere : i = j
        · subst elsewhere
          exact ⟨i, back, met, onward, beside, a, b, way, least, away, same⟩
        · have joined := way.onward_eq onwards least away elsewhere
          subst joined
          cases onwards.away.end_unique away.route
          exact absurd rfl same

/-- Where a name is ordinary, no route ends with a fault. -/
theorem Route.exists_ok {name : String} (ordinary : c.role name = .ok .ordinary)
    (route : Route M c passed l ps r) : ∃ a, r = .ok a := by
  induction route with
  | @arrive _ _ _ _ r _ decides =>
    cases r with
    | ok a => exact ⟨a, rfl⟩
    | error f =>
      have faulty := role_of_verdict?_error decides
      exact absurd faulty (Settings.role_ne_error_of_ordinary ordinary _ f)
  | through _ _ _ _ ih => exact ih

/-- Staying away from a type leaves a route to metadata from its own declaration, if
there is any: what follows the last return. -/
theorem exists_route_away (route : Route M c [] (M.annotationsOn t) ps r) :
    ∃ qs, Route M c [t] (M.annotationsOn t) qs r := by
  rcases route.avoids_or_returns t with avoids | ⟨back, onward, met, rfl, way, onwards⟩
  · exact ⟨ps, avoids⟩
  · exact ⟨onward, onwards.away⟩

theorem Diverted.ne (diverted : Diverted M c t)
    (least : IsLeastRoute M c [] (M.annotationsOn t) ps (.ok a))
    (away : IsLeastRoute M c [t] (M.annotationsOn t) qs (.ok b)) : a ≠ b := by
  obtain ⟨i, back, met, onward, beside, a', b', -, least', away', different⟩ := diverted
  cases (least.unique least').2
  cases (away.unique away').2
  exact different

/-- **Two searches of one declaration**: both find something or neither does, and they
find different annotations exactly if the least route returns for other metadata. -/
theorem answers_of_finds {name : String} (ordinary : c.role name = .ok .ordinary)
    {first second : Except Fault (Option A)} (found : Finds M c [] (M.annotationsOn t) first)
    (away : Finds M c [t] (M.annotationsOn t) second) :
    ∃ x y, first = .ok x ∧ second = .ok y ∧ x.isSome = y.isSome ∧
      (x = y ↔ ¬ Diverted M c t) := by
  rcases found with ⟨rfl, nowhere⟩ | ⟨ps, r, rfl, least⟩
  · rcases away with ⟨rfl, -⟩ | ⟨qs, q, -, least_away⟩
    · have not_diverted : ¬ Diverted M c t := by
        rintro ⟨i, back, met, onward, beside, a, b, -, least, -⟩
        exact nowhere _ _ least.route
      exact ⟨none, none, rfl, rfl, rfl, fun _ => not_diverted, fun _ => rfl⟩
    · exact absurd least_away.route.of_away (nowhere qs q)
  · obtain ⟨a, rfl⟩ := least.route.exists_ok ordinary
    rcases away with ⟨-, nowhere⟩ | ⟨qs, q, rfl, least_away⟩
    · obtain ⟨qs, route⟩ := exists_route_away least.route
      exact absurd route (nowhere qs _)
    · obtain ⟨b, rfl⟩ := least_away.route.exists_ok ordinary
      refine ⟨some a, some b, rfl, rfl, rfl, ?_, ?_⟩
      · intro same diverted
        exact diverted.ne least least_away (Option.some.inj same)
      · intro not_diverted
        rcases eq_or_diverted least least_away with same | diverted
        · rw [same]
        · exact absurd diverted not_diverted

/-! ## An entity with a single annotation -/

/-- Through a single annotation of an ordinary type one comes to its declaration only. -/
theorem Finds.below_of_singleton {r : Except Fault (Option A)}
    (ordinary : M.role c (M.typeOf a) = .ok .ordinary) (found : Finds M c [] [a] r) :
    Finds M c [M.typeOf a] (M.annotationsOn (M.typeOf a)) r := by
  rcases found with ⟨rfl, nowhere⟩ | ⟨ps, q, rfl, least⟩
  · exact .inl ⟨rfl, fun ps q below =>
      nowhere (0 :: ps) q (.through rfl ordinary List.not_mem_nil below)⟩
  · match ps with
    | [] => exact absurd rfl least.route.ne_nil
    | 0 :: ps =>
      refine .inr ⟨ps, q, rfl, (least.route.below_of_zero ordinary).2, fun qs q below => ?_⟩
      have order := least.least (0 :: qs) q (.through rfl ordinary List.not_mem_nil below)
      exact fun before => order (List.cons_lt_cons_iff.2 (.inr ⟨rfl, before⟩))
    | (i + 1) :: ps => exact absurd least.route.of_cons not_route_nil

end Search

namespace Graph

open Search

variable {g : Graph} {c : Settings} {t : String} {e : Target}

theorem exists_listed_of_singleton (alone : (g.annotations e).map (·.type) = [t]) :
    ∃ a, g.model.annotations e = [a] ∧ g.model.typeOf a = t := by
  have types : (g.model.annotations e).map g.model.typeOf = [t] := by
    rw [← alone]
    simp [model, listed]
  obtain ⟨a, single, typed⟩ := List.map_eq_singleton_iff.1 types
  exact ⟨a, single, typed⟩

/-- **Searching a type and searching an entity annotated with it.** With a limit above the
number of types neither search reports it; both find something or neither does; and they
find the same annotation unless the search of the type returns to it for other metadata. -/
theorem find_type_eq_find_entity_iff (g : Graph) (c : Settings) (t : String) (e : Target)
    (alone : (g.annotations e).map (·.type) = [t]) (ordinary : c.role t = .ok .ordinary)
    (room : g.types.length < c.depth.levels) :
    (∀ event ∈ (Search.find g.model c (.type (.text t))).events ++ (Search.find g.model c e).events,
      event.level = .debug) ∧
    ∃ x y, (Search.find g.model c (.type (.text t))).answer = .ok x ∧
      (Search.find g.model c e).answer = .ok y ∧ x.isSome = y.isSome ∧
      (x = y ↔ ¬ Diverted g.model c t) := by
  refine ⟨?_, ?_⟩
  · intro event member
    rcases List.mem_append.1 member with first | second
    · exact debug_of_types_lt room _ event first
    · exact debug_of_types_lt room _ event second
  · obtain ⟨a, single, rfl⟩ := exists_listed_of_singleton alone
    have found := finds_of_unwarned (unwarned_of_types_lt room (.type (.text (g.model.typeOf a))))
    have found_entity := finds_of_unwarned (unwarned_of_types_lt room e)
    rw [single] at found_entity
    exact answers_of_finds ordinary found (found_entity.below_of_singleton ordinary)

end Graph

/-! ## A type that is entered after all -/

namespace Search.Loop

/-- `t.T` lists `t.X` before metadata of its own, and `t.X` lists `t.T` before its own. -/
def graph : Graph where
  entities := [(.text "e", [⟨"t.T", []⟩])]
  types := [
    (.text "t.T", [⟨"t.X", []⟩, ⟨Settings.defaultMetadataType, [(.text "kind", .text "Outer")]⟩]),
    (.text "t.X", [⟨"t.T", []⟩, ⟨Settings.defaultMetadataType, [(.text "kind", .text "Inner")]⟩])]
  defaults := []

def outer : graph.Listed :=
  ⟨⟨Settings.defaultMetadataType, [(.text "kind", .text "Outer")]⟩, by decide⟩

def inner : graph.Listed :=
  ⟨⟨Settings.defaultMetadataType, [(.text "kind", .text "Inner")]⟩, by decide⟩

theorem outer_ne_inner : outer ≠ inner := by
  intro same
  have attributes := congrArg (fun a : graph.Listed => a.1.attributes) same
  simp [outer, inner] at attributes

/-- The search of the type enters it below `t.X`. -/
theorem run_type :
    (run graph.model Settings.default (start graph.model (.type (.text "t.T")))).answer
      = some (.ok outer) := by
  rw [run_eq_of_explores (M := graph.model) (c := Settings.default)
    (e := .type (.text "t.T"))
    (.answered rfl (by decide)
      (.answered rfl (by decide) (.revisited rfl (by decide) (.metadata rfl)) rfl) rfl)]
  rfl

/-- The search of the entity enters it first and passes over it below `t.X`. -/
theorem run_entity :
    (run graph.model Settings.default (start graph.model (.entity (.text "e")))).answer
      = some (.ok inner) := by
  rw [run_eq_of_explores (M := graph.model) (c := Settings.default)
    (e := .entity (.text "e"))
    (.answered rfl (by decide)
      (.answered rfl (by decide) (.revisited rfl (by decide) (.metadata rfl)) rfl) rfl)]
  rfl

theorem loop_answers_differ :
    (graph.annotations (.entity (.text "e"))).map (·.type) = ["t.T"] ∧
      Settings.default.role "t.T" = .ok .ordinary ∧
      graph.types.length + 1 < Settings.default.depth.levels ∧
      (find graph.model Settings.default (.type (.text "t.T"))).answer
        ≠ (find graph.model Settings.default (.entity (.text "e"))).answer := by
  refine ⟨rfl, rfl, by decide, ?_⟩
  rw [find, Exploration.result, run_type, find, Exploration.result, run_entity]
  intro same
  exact outer_ne_inner (Option.some.inj (Except.ok.inj same))

/-- Below `t.X` the search of `t.T` returns to it, although `t.X` lists metadata as well. -/
theorem loop_diverted :
    graph.types.length < Settings.default.depth.levels ∧
      Diverted graph.model Settings.default "t.T" := by
  have room : graph.types.length < Settings.default.depth.levels := by decide
  obtain ⟨-, x, y, first, second, -, same_iff⟩ := Graph.find_type_eq_find_entity_iff graph
    Settings.default "t.T" (.entity (.text "e")) rfl rfl room
  rw [find, Exploration.result, run_type] at first
  rw [find, Exploration.result, run_entity] at second
  refine ⟨room, ?_⟩
  by_contra not_diverted
  have same := same_iff.2 not_diverted
  rw [← Except.ok.inj first, ← Except.ok.inj second] at same
  exact outer_ne_inner (Option.some.inj same)

end Search.Loop

end Hallmark
