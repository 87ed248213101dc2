/-
# Hallmark.Proofs.Search.LeastRoute -- a search finds the end of the least route

While the depth limit is not reached, leaving out what was entered before costs nothing.
The invariant is that of white paths: a type that a search has finished with can lead to
metadata only through types that are still on the stack (`Closed`).  An exploration
without an answer leaves its list settled and keeps the invariant (`Explores.settled`);
so an annotation whose type was entered before starts no route, since a route does not
meet the types it has passed, and the first annotation that starts one also starts the
least one (`Explores.finds`).
-/
import Hallmark.Graph.Basic
import Hallmark.Proofs.Search.Acyclic

namespace Hallmark.Search

set_option autoImplicit false

variable {E A T : Type} {M : Model E A T} {c : Settings} {room : Nat} {entered passed : List T}
  {warned : Bool} {l : List A} {x : Exploration A T}

/-! ## The invariant of white paths -/

theorem Closed.nil (M : Model E A T) (c : Settings) : Closed M c [] ([] : List T) :=
  fun _ member => absurd member List.not_mem_nil

theorem Closed.enter (closed : Closed M c passed entered) (t : T) :
    Closed M c (t :: passed) (t :: entered) := by
  intro u member
  rcases List.mem_cons.1 member with rfl | known
  · exact .inl List.mem_cons_self
  · rcases closed u known with gone | settled
    · exact .inl (List.mem_cons_of_mem _ gone)
    · exact .inr (settled.mono fun _ => List.mem_cons_of_mem _)

/-- Without an answer, and within the limit, all that an exploration has entered lists
only what is settled. -/
theorem Explores.settled (explored : Explores M c room entered warned l x)
    (open_ : x.answer = none) (quiet : x.warned = false) :
    Settled M c x.entered l ∧
      ∀ t ∈ x.entered, t ∈ entered ∨ Settled M c x.entered (M.annotationsOn t) := by
  induction explored with
  | nothing => exact ⟨fun a member => absurd member List.not_mem_nil, fun t known => .inl known⟩
  | fault => cases open_
  | metadata => cases open_
  | reserved reserved _ ih =>
    obtain ⟨rest_settled, entered_settled⟩ := ih open_ quiet
    exact ⟨List.forall_mem_cons.2 ⟨.inl reserved, rest_settled⟩, entered_settled⟩
  | revisited ordinary known later ih =>
    obtain ⟨rest_settled, entered_settled⟩ := ih open_ quiet
    have still_known := later.entered_grows _ known
    exact ⟨List.forall_mem_cons.2 ⟨.inr ⟨ordinary, still_known⟩, rest_settled⟩, entered_settled⟩
  | abandoned _ _ later _ => cases later.unwarned_before quiet
  | answered _ _ _ answered _ => simp [open_] at answered
  | returned ordinary _ below nothing_below later ih_below ih_later =>
    obtain ⟨rest_settled, later_settled⟩ := ih_later open_ quiet
    obtain ⟨below_settled, deeper_settled⟩ := ih_below nothing_below (later.unwarned_before quiet)
    have grown := later.entered_grows
    have still_known := grown _ (below.entered_grows _ List.mem_cons_self)
    refine ⟨List.forall_mem_cons.2 ⟨.inr ⟨ordinary, still_known⟩, rest_settled⟩, ?_⟩
    intro t member
    rcases later_settled t member with earlier | settled
    · rcases deeper_settled t earlier with first | settled
      · rcases List.mem_cons.1 first with rfl | known
        · exact .inr (below_settled.mono grown)
        · exact .inl known
      · exact .inr (settled.mono grown)
    · exact .inr settled

theorem Explores.closed (explored : Explores M c room entered warned l x)
    (open_ : x.answer = none) (quiet : x.warned = false) (closed : Closed M c passed entered) :
    Closed M c passed x.entered := by
  intro t member
  rcases (explored.settled open_ quiet).2 t member with known | settled
  · exact (closed t known).imp_right (·.mono explored.entered_grows)
  · exact .inr settled

/-- A type that was finished with leads nowhere. -/
theorem Closed.not_route_zero {a : A} {rest : List A} (closed : Closed M c passed entered)
    (ordinary : M.role c (M.typeOf a) = .ok .ordinary) (known : M.typeOf a ∈ entered)
    (ps : List Nat) (r : Except Fault A) : ¬ Route M c passed (a :: rest) (0 :: ps) r := by
  intro route
  obtain ⟨fresh, below⟩ := route.below_of_zero ordinary
  rcases closed _ known with gone | settled
  · exact fresh gone
  · exact settled.no_route closed (fun t => List.mem_cons_of_mem _) below

/-- The type that was passed last is finished with when its list is settled. -/
theorem Closed.leave {t : T} (closed : Closed M c (t :: passed) entered)
    (settled : Settled M c entered (M.annotationsOn t)) : Closed M c passed entered := by
  intro u member
  rcases closed u member with gone | settled_u
  · rcases List.mem_cons.1 gone with rfl | earlier
    · exact .inr settled
    · exact .inl earlier
  · exact .inr settled_u

/-- **Within the limit an exploration finds the end of the least route.** -/
theorem Explores.finds (explored : Explores M c room entered warned l x)
    (closed : Closed M c passed entered) (known : ∀ t ∈ passed, t ∈ entered)
    (quiet : x.warned = false) : Finds M c passed l x.result.answer := by
  induction explored generalizing passed with
  | nothing => exact .inl ⟨rfl, fun ps q => not_route_nil⟩
  | fault faulty => exact (isLeastRoute_zero (verdict?_of_fault faulty)).finds
  | metadata metadata => exact (isLeastRoute_zero (verdict?_of_metadata metadata)).finds
  | reserved reserved _ ih =>
    exact (ih closed known quiet).cons fun ps q => not_route_zero_of_reserved reserved
  | revisited ordinary entered_before _ ih =>
    exact (ih closed known quiet).cons (closed.not_route_zero ordinary entered_before)
  | abandoned _ _ later _ => cases later.unwarned_before quiet
  | @answered _ _ _ a _ x ordinary fresh below answered ih =>
    have found := ih (closed.enter (M.typeOf a)) (List.cons_subset_cons _ known) quiet
    exact found.through_zero (Exploration.result_of_answered answered) ordinary fun gone => fresh (known _ gone)
  | @returned _ _ _ a _ x _ ordinary fresh below open_ later ih_below ih_later =>
    have quiet_below := later.unwarned_before quiet
    have below_settled := (below.settled open_ quiet_below).1
    have closed_after : Closed M c passed x.entered :=
      (below.closed open_ quiet_below (closed.enter (M.typeOf a))).leave below_settled
    have known_after : ∀ t ∈ passed, t ∈ x.entered := fun t gone =>
      below.entered_grows t (List.mem_cons_of_mem _ (known t gone))
    have type_known := below.entered_grows _ List.mem_cons_self
    exact (ih_later closed_after known_after quiet).cons
      (closed_after.not_route_zero ordinary type_known)

/-! ## Whole searches -/

/-- `Leads M c l a`: from `l`, through types that are not reserved, whichever and however
often, one comes to the metadata annotation `a`. -/
inductive Leads (M : Model E A T) (c : Settings) : List A → A → Prop where
  | here {l : List A} {a : A} (member : a ∈ l)
    (metadata : M.role c (M.typeOf a) = .ok .metadata) : Leads M c l a
  | through {l : List A} {b a : A} (member : b ∈ l)
    (unreserved : c.isReserved (M.name (M.typeOf b)) = .ok false)
    (below : Leads M c (M.annotationsOn (M.typeOf b)) a) : Leads M c l a

theorem Route.leads {ps : List Nat} {a : A} (route : Route M c passed l ps (.ok a)) :
    Leads M c l a := by
  generalize ended : (Except.ok a : Except Fault A) = r at route
  induction route with
  | arrive here decides =>
    subst ended
    obtain ⟨rfl, metadata⟩ := eq_of_verdict?_ok decides
    exact .here (List.mem_of_getElem? here) metadata
  | through here ordinary _ _ ih =>
    exact .through (List.mem_of_getElem? here) (Settings.isReserved_of_ordinary ordinary) (ih ended)

theorem Settled.not_leads {a : A} (settled : Settled M c entered l)
    (closed : Closed M c [] entered) : ¬ Leads M c l a := by
  intro leads
  induction leads with
  | here member metadata =>
    rcases settled _ member with reserved | ⟨ordinary, -⟩
    · simp [metadata] at reserved
    · simp [metadata] at ordinary
  | through member unreserved _ ih =>
    rcases settled _ member with reserved | ⟨-, known⟩
    · simp [Settings.isReserved_of_reserved reserved] at unreserved
    · rcases closed _ known with gone | onward
      · cases gone
      · exact ih onward

/-- Only a prefix that is no text makes a route end with a fault. -/
theorem Route.exists_not_text {ps : List Nat} {f : Fault}
    (route : Route M c passed l ps (.error f)) : ∃ v ∈ c.reserved, v.text? = none := by
  generalize ended : (Except.error f : Except Fault A) = r at route
  induction route with
  | arrive here decides =>
    subst ended
    exact Settings.exists_not_text_of_role_error (role_of_verdict?_error decides)
  | through _ _ _ _ ih => exact ih ended

variable [DecidableEq T]

theorem unwarned_of_debug {e : E} (unwarned : ∀ event ∈ (find M c e).events, event.level = .debug) :
    (run M c (start M e)).warned = false := by
  by_contra late
  rcases (explores_run M c e).exists_warning (by simpa using late) with before | ⟨event, member, level⟩
  · cases before
  · rw [unwarned event member] at level
    cases level

/-- A search that does not report the limit finds the end of the least route. -/
theorem finds_of_unwarned {e : E} (quiet : (run M c (start M e)).warned = false) :
    Finds M c [] (M.annotations e) (find M c e).answer :=
  (explores_run M c e).finds (.nil M c) (fun _ gone => gone) quiet

/-- **A search that does not reach the limit finds the end of the least route.** Nothing is
found exactly if no metadata can be reached at all, and a fault only with a prefix that is
no text.  Where no type comes back to itself, a recursion that does not remember what it
entered ends, and with the same answer. -/
theorem find_least_route (M : Model E A T) (c : Settings) (e : E)
    (unwarned : ∀ event ∈ (find M c e).events, event.level = .debug) :
    (match (find M c e).answer with
      | .ok (some a) =>
        Leads M c (M.annotations e) a ∧ ∃ ps, IsLeastRoute M c [] (M.annotations e) ps (.ok a)
      | .ok none => ∀ a, ¬ Leads M c (M.annotations e) a
      | .error _ => ∃ v ∈ c.reserved, v.text? = none) ∧
    (M.Acyclic c → ∀ r, Plain M c (M.annotations e) r ↔ (find M c e).answer = r) := by
  have explored := explores_run M c e
  have quiet := unwarned_of_debug unwarned
  have found := finds_of_unwarned quiet
  refine ⟨?_, fun acyclic r => ?_⟩
  · rcases found with ⟨nothing, -⟩ | ⟨ps, q, ended, least⟩
    · rw [nothing]
      have open_ : (run M c (start M e)).answer = none := Exploration.answer_of_nothing nothing
      exact fun a => (explored.settled open_ quiet).1.not_leads
        (explored.closed open_ quiet (.nil M c))
    · rw [ended]
      match q with
      | .ok a => exact ⟨least.route.leads, ps, least⟩
      | .error f => exact least.route.exists_not_text
  · have clear : Clear M c [] (M.annotations e) := fun t gone => absurd gone List.not_mem_nil
    have agrees : ∀ s, Plain M c (M.annotations e) s → (find M c e).answer = s :=
      fun s plain => found.unique (plain.finds acyclic clear)
    constructor
    · exact agrees r
    · rintro rfl
      obtain ⟨s, plain⟩ := exists_plain acyclic (M.annotations e)
      rw [agrees s plain]
      exact plain

/-! ## A ring of two types -/

namespace Ring

open Document

/-- `A` lists `B` before metadata of its own, and `B` lists `A` before its own. -/
def graph : Graph where
  entities := [(.text "e", [⟨"A", []⟩])]
  types := [(.text "A", [⟨"B", []⟩, ⟨"M", [(.text "kind", .text "outer")]⟩]),
    (.text "B", [⟨"A", []⟩, ⟨"M", [(.text "kind", .text "inner")]⟩])]
  defaults := []

def settings : Settings := { Settings.default with metadataType := .text "M" }

def inner : graph.Listed := ⟨⟨"M", [(.text "kind", .text "inner")]⟩, by decide⟩

theorem run_eq : run graph.model settings (start graph.model (.entity (.text "e")))
    = ⟨[.revisited "A", .found "M" 2], ["B", "A"], false, some (.ok inner)⟩ :=
  run_eq_of_explores
    (.answered rfl (by decide)
      (.answered rfl (by decide) (.revisited rfl (by decide) (.metadata rfl)) rfl) rfl)

/-- Coming back to `A` ends no search, and the metadata of `B` comes first. -/
theorem find_ring :
    (∀ event ∈ (find graph.model settings (.entity (.text "e"))).events, event.level = .debug) ∧
      ∃ ps, IsLeastRoute graph.model settings []
        (graph.model.annotations (.entity (.text "e"))) ps (.ok inner) := by
  have unwarned : ∀ event ∈ (find graph.model settings (.entity (.text "e"))).events,
      event.level = .debug := by
    rw [find, run_eq]
    intro event member
    simp only [Exploration.result, List.mem_cons, List.not_mem_nil, or_false] at member
    rcases member with rfl | rfl
    · rfl
    · rfl
  have found := (find_least_route graph.model settings (.entity (.text "e")) unwarned).1
  rw [find, run_eq] at found
  exact ⟨unwarned, found.2⟩

end Ring

end Hallmark.Search
