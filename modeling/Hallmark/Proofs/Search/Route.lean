/-
# Hallmark.Proofs.Search.Route -- routes to metadata and their order

A route from a list of annotations is a list of positions: the first is a place in the
list, each further one a place on the declaration of the type of the annotation before.
The types on the way are ordinary and pairwise distinct, and the route ends at an
annotation that decides a search, one of the metadata type.  (A type whose name cannot
be tested decides it too, with a fault; with prefixes that are texts there is none.)
Routes are compared as lists of numbers, lexicographically.

No route goes on through what is settled: if all ordinary types listed somewhere are
entered, and every type that is entered has been passed or lists only such types again,
then each further step stays within them and never arrives (`Settled.no_route`).
-/
import Hallmark.Proofs.Search.Role
import Hallmark.Proofs.Search.Exploration

namespace Hallmark

set_option autoImplicit false

variable {E A T : Type}

/-- How a search ends at an annotation, if it does. -/
def Model.verdict? (M : Model E A T) (c : Settings) (a : A) : Option (Except Fault A) :=
  match M.role c (M.typeOf a) with
  | .ok .metadata => some (.ok a)
  | .ok _ => none
  | .error f => some (.error f)

namespace Search

/-- `Route M c passed l ps r`: from `l`, and without the types `passed`, the positions
`ps` lead to an annotation where a search ends with `r`. -/
inductive Route (M : Model E A T) (c : Settings) :
    List T → List A → List Nat → Except Fault A → Prop where
  | arrive {passed : List T} {l : List A} {i : Nat} {a : A} {r : Except Fault A}
    (here : l[i]? = some a) (decides : M.verdict? c a = some r) : Route M c passed l [i] r
  | through {passed : List T} {l : List A} {i : Nat} {a : A} {ps : List Nat} {r : Except Fault A}
    (here : l[i]? = some a) (ordinary : M.role c (M.typeOf a) = .ok .ordinary)
    (fresh : M.typeOf a ∉ passed)
    (below : Route M c (M.typeOf a :: passed) (M.annotationsOn (M.typeOf a)) ps r) :
    Route M c passed l (i :: ps) r

/-- The first route in the order of positions: no other comes before it. -/
structure IsLeastRoute (M : Model E A T) (c : Settings) (passed : List T) (l : List A)
    (ps : List Nat) (r : Except Fault A) : Prop where
  route : Route M c passed l ps r
  least : ∀ qs q, Route M c passed l qs q → ¬ qs < ps

variable {M : Model E A T} {c : Settings} {passed : List T} {l rest : List A} {a : A}
  {ps qs : List Nat} {r q : Except Fault A}

/-! ## Annotations that decide -/

theorem verdict?_of_metadata (metadata : M.role c (M.typeOf a) = .ok .metadata) :
    M.verdict? c a = some (.ok a) := by
  simp [Model.verdict?, metadata]

theorem verdict?_of_fault {f : Fault} (faulty : M.role c (M.typeOf a) = .error f) :
    M.verdict? c a = some (.error f) := by
  simp [Model.verdict?, faulty]

theorem verdict?_of_reserved (reserved : M.role c (M.typeOf a) = .ok .reserved) :
    M.verdict? c a = none := by
  simp [Model.verdict?, reserved]

theorem verdict?_of_ordinary (ordinary : M.role c (M.typeOf a) = .ok .ordinary) :
    M.verdict? c a = none := by
  simp [Model.verdict?, ordinary]

theorem eq_of_verdict?_ok {b : A} (decides : M.verdict? c a = some (.ok b)) :
    b = a ∧ M.role c (M.typeOf a) = .ok .metadata := by
  unfold Model.verdict? at decides
  split at decides
  · rename_i metadata
    cases decides
    exact ⟨rfl, metadata⟩
  · cases decides
  · cases decides

theorem role_of_verdict?_error {f : Fault} (decides : M.verdict? c a = some (.error f)) :
    M.role c (M.typeOf a) = .error f := by
  unfold Model.verdict? at decides
  split at decides
  · cases decides
  · cases decides
  · rename_i faulty
    cases decides
    exact faulty

/-! ## Routes from a list with one more annotation -/

theorem Route.ne_nil (route : Route M c passed l ps r) : ps ≠ [] := by
  cases route <;> simp

theorem not_route_nil : ¬ Route M c passed [] ps r := by
  intro route
  cases route with
  | arrive here => simp at here
  | through here => simp at here

theorem Route.cons {i : Nat} (route : Route M c passed rest (i :: ps) r) (a : A) :
    Route M c passed (a :: rest) ((i + 1) :: ps) r := by
  cases route with
  | arrive here decides => exact .arrive (by simpa using here) decides
  | through here ordinary fresh below => exact .through (by simpa using here) ordinary fresh below

theorem Route.of_cons {i : Nat} (route : Route M c passed (a :: rest) ((i + 1) :: ps) r) :
    Route M c passed rest (i :: ps) r := by
  cases route with
  | arrive here decides => exact .arrive (by simpa using here) decides
  | through here ordinary fresh below => exact .through (by simpa using here) ordinary fresh below

theorem not_route_zero_of_reserved (reserved : M.role c (M.typeOf a) = .ok .reserved) :
    ¬ Route M c passed (a :: rest) (0 :: ps) r := by
  intro route
  cases route with
  | arrive here decides =>
    cases here
    simp [verdict?_of_reserved reserved] at decides
  | through here ordinary =>
    cases here
    simp [reserved] at ordinary

/-- A route through the first annotation goes on below its type. -/
theorem Route.below_of_zero (ordinary : M.role c (M.typeOf a) = .ok .ordinary)
    (route : Route M c passed (a :: rest) (0 :: ps) r) :
    M.typeOf a ∉ passed ∧
      Route M c (M.typeOf a :: passed) (M.annotationsOn (M.typeOf a)) ps r := by
  cases route with
  | arrive here decides =>
    cases here
    simp [verdict?_of_ordinary ordinary] at decides
  | through here _ fresh below =>
    cases here
    exact ⟨fresh, below⟩

/-- No route starts at the first annotation, and none in the rest. -/
theorem not_route_cons (dead : ∀ ps r, ¬ Route M c passed (a :: rest) (0 :: ps) r)
    (none_ : ∀ ps r, ¬ Route M c passed rest ps r) (ps : List Nat) (r : Except Fault A) :
    ¬ Route M c passed (a :: rest) ps r := by
  intro route
  match ps with
  | [] => exact route.ne_nil rfl
  | 0 :: ps => exact dead ps r route
  | (i + 1) :: ps => exact none_ (i :: ps) r route.of_cons

/-! ## The least route -/

/-- The positions of a route determine where it ends. -/
theorem Route.end_unique (route : Route M c passed l ps r) (other : Route M c passed l ps q) :
    r = q := by
  induction route with
  | arrive here decides =>
    cases other with
    | arrive there decides' =>
      rw [here] at there
      cases there
      rw [decides] at decides'
      exact Option.some.inj decides'
    | through there _ _ below => exact absurd rfl below.ne_nil
  | through here ordinary fresh below ih =>
    cases other with
    | arrive there _ => exact absurd rfl below.ne_nil
    | through there _ _ below' =>
      rw [here] at there
      cases there
      exact ih below'

theorem IsLeastRoute.unique (first : IsLeastRoute M c passed l ps r)
    (second : IsLeastRoute M c passed l qs q) : ps = qs ∧ r = q := by
  have not_after : ¬ qs < ps := first.least qs q second.route
  have not_before : ¬ ps < qs := second.least ps r first.route
  have same : ps = qs := List.le_antisymm not_after not_before
  subst same
  exact ⟨rfl, first.route.end_unique second.route⟩

theorem isLeastRoute_zero (decides : M.verdict? c a = some r) :
    IsLeastRoute M c passed (a :: rest) [0] r where
  route := .arrive rfl decides
  least qs q route := by
    match qs with
    | [] => exact absurd rfl route.ne_nil
    | j :: qs =>
      rw [List.cons_lt_cons_iff]
      rintro (before | ⟨-, shorter⟩)
      · omega
      · exact List.not_lt_nil qs shorter

theorem IsLeastRoute.through_zero (ordinary : M.role c (M.typeOf a) = .ok .ordinary)
    (fresh : M.typeOf a ∉ passed)
    (below : IsLeastRoute M c (M.typeOf a :: passed) (M.annotationsOn (M.typeOf a)) ps r) :
    IsLeastRoute M c passed (a :: rest) (0 :: ps) r where
  route := .through rfl ordinary fresh below.route
  least qs q route := by
    match qs with
    | [] => exact absurd rfl route.ne_nil
    | 0 :: qs =>
      obtain ⟨-, route_below⟩ := route.below_of_zero ordinary
      rw [List.cons_lt_cons_iff]
      rintro (before | ⟨-, tail⟩)
      · omega
      · exact below.least qs q route_below tail
    | (j + 1) :: qs =>
      rw [List.cons_lt_cons_iff]
      rintro (before | ⟨same, -⟩)
      · omega
      · omega

/-- If no route starts at the first annotation, the least one is that of the rest. -/
theorem IsLeastRoute.cons (dead : ∀ ps r, ¬ Route M c passed (a :: rest) (0 :: ps) r)
    (later : IsLeastRoute M c passed rest ps r) :
    ∃ qs, IsLeastRoute M c passed (a :: rest) qs r := by
  match ps with
  | [] => exact absurd rfl later.route.ne_nil
  | i :: ps =>
    refine ⟨(i + 1) :: ps, later.route.cons a, fun qs q route => ?_⟩
    match qs with
    | [] => exact absurd rfl route.ne_nil
    | 0 :: qs => exact absurd route (dead qs q)
    | (j + 1) :: qs =>
      have order := later.least (j :: qs) q route.of_cons
      rw [List.cons_lt_cons_iff] at order ⊢
      rintro (before | ⟨same, tail⟩)
      · exact order (.inl (by omega))
      · exact order (.inr ⟨by omega, tail⟩)

/-! ## What is found -/

section Finds

variable {r s : Except Fault (Option A)}

/-- `r` is the end of the least route from a list, or nothing if there is no route. -/
def Finds (M : Model E A T) (c : Settings) (passed : List T) (l : List A)
    (r : Except Fault (Option A)) : Prop :=
  (r = .ok none ∧ ∀ ps q, ¬ Route M c passed l ps q) ∨
    ∃ ps q, r = some <$> q ∧ IsLeastRoute M c passed l ps q

theorem IsLeastRoute.finds (least : IsLeastRoute M c passed l ps q) : Finds M c passed l (some <$> q) :=
  .inr ⟨ps, q, rfl, least⟩

theorem Finds.cons (found : Finds M c passed rest r)
    (dead : ∀ ps q, ¬ Route M c passed (a :: rest) (0 :: ps) q) :
    Finds M c passed (a :: rest) r := by
  rcases found with ⟨nothing, none_⟩ | ⟨ps, q, rfl, least⟩
  · exact .inl ⟨nothing, not_route_cons dead none_⟩
  · obtain ⟨qs, shifted⟩ := least.cons dead
    exact shifted.finds

theorem Finds.through_zero
    (found : Finds M c (M.typeOf a :: passed) (M.annotationsOn (M.typeOf a)) r)
    (answered : r ≠ .ok none) (ordinary : M.role c (M.typeOf a) = .ok .ordinary)
    (fresh : M.typeOf a ∉ passed) : Finds M c passed (a :: rest) r := by
  rcases found with ⟨nothing, -⟩ | ⟨ps, q, rfl, least⟩
  · exact absurd nothing answered
  · exact (least.through_zero ordinary fresh).finds

theorem Finds.not_route (found : Finds M c passed l (.ok none)) (ps : List Nat)
    (q : Except Fault A) : ¬ Route M c passed l ps q := by
  rcases found with ⟨-, none_⟩ | ⟨-, _ | _, something, -⟩
  · exact none_ ps q
  · cases something
  · cases something

theorem Finds.unique (found : Finds M c passed l r)
    (other : Finds M c passed l s) : r = s := by
  rcases found with ⟨rfl, none_⟩ | ⟨ps, q, rfl, least⟩
  · rcases other with ⟨rfl, -⟩ | ⟨ps, q, -, least⟩
    · rfl
    · exact absurd least.route (none_ ps q)
  · rcases other with ⟨-, none_⟩ | ⟨ps', q', rfl, least'⟩
    · exact absurd least.route (none_ ps q)
    · rw [(least.unique least').2]

end Finds

/-! ## Settled lists -/

/-- Every annotation of a list is reserved or has an ordinary type that is entered. -/
def Settled (M : Model E A T) (c : Settings) (entered : List T) (l : List A) : Prop :=
  ∀ a ∈ l, M.role c (M.typeOf a) = .ok .reserved ∨
    (M.role c (M.typeOf a) = .ok .ordinary ∧ M.typeOf a ∈ entered)

/-- Every type that is entered has been passed or lists only what is settled. -/
def Closed (M : Model E A T) (c : Settings) (passed entered : List T) : Prop :=
  ∀ t ∈ entered, t ∈ passed ∨ Settled M c entered (M.annotationsOn t)

variable {entered more : List T}

theorem Settled.mono (settled : Settled M c entered l) (grown : ∀ t ∈ entered, t ∈ more) :
    Settled M c more l :=
  fun a member => (settled a member).imp_right fun ⟨ordinary, known⟩ => ⟨ordinary, grown _ known⟩

theorem Settled.verdict?_eq_none (settled : Settled M c entered l) (member : a ∈ l) :
    M.verdict? c a = none := by
  rcases settled a member with reserved | ⟨ordinary, -⟩
  · exact verdict?_of_reserved reserved
  · exact verdict?_of_ordinary ordinary

/-- **No route leads out of what is settled** except through a type already passed. -/
theorem Settled.no_route {started : List T} (settled : Settled M c entered l)
    (closed : Closed M c started entered) (passes : ∀ t ∈ started, t ∈ passed) :
    ¬ Route M c passed l ps r := by
  intro route
  induction route with
  | arrive here decides =>
    simp [settled.verdict?_eq_none (List.mem_of_getElem? here)] at decides
  | through here ordinary fresh below ih =>
    rcases settled _ (List.mem_of_getElem? here) with reserved | ⟨-, known⟩
    · simp [reserved] at ordinary
    · rcases closed _ known with gone | onward
      · exact fresh (passes _ gone)
      · exact ih onward fun t member => List.mem_cons_of_mem _ (passes t member)

end Search

end Hallmark
