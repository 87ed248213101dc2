/-
# Hallmark.Proofs.Search.Room -- searches that stay within the depth limit

To report the limit an exploration needs a path that uses up its room: as many distinct
types, each of which lists an annotation (`Explores.exists_path_of_warning`).  A graph has
no more such types than it declares, so that a search with more room than that reports
only what it found and what it came to again.
-/
import Hallmark.Graph.Basic
import Hallmark.Proofs.Search.Exploration

namespace Hallmark

set_option autoImplicit false

open Document

namespace Search

variable {E A T : Type} {M : Model E A T} {c : Settings} {room : Nat} {entered : List T}
  {warned : Bool} {l : List A} {x : Exploration A T}

/-- Distinct types that are not entered yet, each of which lists something. -/
structure PathOutside (M : Model E A T) (entered ts : List T) : Prop where
  distinct : ts.Nodup
  outside : ∀ t ∈ ts, t ∉ entered
  lists : ∀ t ∈ ts, M.annotationsOn t ≠ []

theorem PathOutside.nil (M : Model E A T) (entered : List T) : PathOutside M entered [] where
  distinct := List.nodup_nil
  outside := fun _ member => absurd member List.not_mem_nil
  lists := fun _ member => absurd member List.not_mem_nil

theorem PathOutside.cons {t : T} {ts : List T} (path : PathOutside M (t :: entered) ts)
    (fresh : t ∉ entered) (lists : M.annotationsOn t ≠ []) : PathOutside M entered (t :: ts) where
  distinct := by
    refine List.nodup_cons.2 ⟨fun again => ?_, path.distinct⟩
    exact path.outside t again List.mem_cons_self
  outside := by
    refine List.forall_mem_cons.2 ⟨fresh, fun u inner known => ?_⟩
    exact path.outside u inner (List.mem_cons_of_mem _ known)
  lists := List.forall_mem_cons.2 ⟨lists, path.lists⟩

theorem PathOutside.anti {more ts : List T} (path : PathOutside M more ts)
    (grown : ∀ t ∈ entered, t ∈ more) : PathOutside M entered ts where
  distinct := path.distinct
  outside := fun t member known => path.outside t member (grown t known)
  lists := path.lists

/-- There is nothing to report about an empty list. -/
theorem Explores.ne_nil (explored : Explores M c room entered warned l x)
    (early : warned = false) (late : x.warned = true) : l ≠ [] := by
  rintro rfl
  cases explored with
  | nothing => simp [early] at late

/-- To report the limit, as many types were entered one below the other as there was room
for. -/
theorem Explores.exists_path_of_warning (explored : Explores M c room entered warned l x)
    (early : warned = false) (late : x.warned = true) :
    ∃ ts, ts.length = room ∧ PathOutside M entered ts := by
  induction explored with
  | nothing | fault | metadata => simp [early] at late
  | reserved _ _ ih | revisited _ _ _ ih => exact ih early late
  | @abandoned entered => exact ⟨[], rfl, .nil M entered⟩
  | @answered _ _ _ a _ _ _ fresh below _ ih =>
    obtain ⟨ts, rfl, path⟩ := ih early late
    exact ⟨M.typeOf a :: ts, rfl, path.cons fresh (below.ne_nil early late)⟩
  | @returned _ _ _ a _ x _ _ fresh below _ _ ih_below ih_later =>
    cases between : x.warned with
    | true =>
      obtain ⟨ts, rfl, path⟩ := ih_below early between
      exact ⟨M.typeOf a :: ts, rfl, path.cons fresh (below.ne_nil early between)⟩
    | false =>
      obtain ⟨ts, length, path⟩ := ih_later between late
      have grown : ∀ t ∈ _, t ∈ x.entered := fun t known =>
        below.entered_grows t (List.mem_cons_of_mem _ known)
      exact ⟨ts, length, path.anti grown⟩

/-- All that is reported within the limit is what was found or come to again. -/
theorem Explores.debug_of_unwarned (explored : Explores M c room entered warned l x)
    (quiet : x.warned = false) : ∀ event ∈ x.events, event.level = .debug := by
  induction explored with
  | nothing | fault => exact fun event member => absurd member List.not_mem_nil
  | metadata => exact List.forall_mem_cons.2 ⟨rfl, fun event member => absurd member List.not_mem_nil⟩
  | reserved _ _ ih => exact ih quiet
  | revisited _ _ _ ih => exact List.forall_mem_cons.2 ⟨rfl, ih quiet⟩
  | abandoned _ _ later _ => cases later.unwarned_before quiet
  | answered _ _ _ _ ih => exact ih quiet
  | returned _ _ _ _ later ih_below ih_later =>
    intro event member
    rcases List.mem_append.1 member with inside | after
    · exact ih_below (later.unwarned_before quiet) event inside
    · exact ih_later quiet event after

end Search

namespace Graph

open Search

variable {g : Graph} {c : Settings}

/-- A type that lists an annotation is declared. -/
theorem mem_keys_of_annotationsOn {t : String} (lists : g.model.annotationsOn t ≠ []) :
    Value.text t ∈ g.types.map (·.1) := by
  obtain ⟨a, rest, listed⟩ := List.exists_cons_of_ne_nil lists
  have member : a ∈ g.listed (.type (.text t)) := by
    rw [show g.listed (.type (.text t)) = a :: rest from listed]
    exact List.mem_cons_self
  obtain ⟨b, here, -⟩ := List.mem_map.1 member
  have stored : b.1 ∈ (g.types.get? (.text t)).getD [] := b.2
  unfold Dictionary.get? at stored
  cases found : g.types.find? (·.1 == Value.text t) with
  | none => simp [found] at stored
  | some entry =>
    have same := List.find?_some found
    rw [← Value.beq_text_iff.1 same]
    exact List.mem_map_of_mem (List.mem_of_find?_eq_some found)

/-- A path of types that list something is no longer than the graph has types. -/
theorem length_le_of_pathOutside {entered ts : List String} (path : PathOutside g.model entered ts) :
    ts.length ≤ g.types.length := by
  have distinct : (ts.map Value.text).Nodup :=
    List.Pairwise.map Value.text (fun s t different same => different (Value.text.inj same))
      path.distinct
  have declared : ts.map Value.text ⊆ g.types.map (·.1) := by
    intro key member
    obtain ⟨t, inside, rfl⟩ := List.mem_map.1 member
    exact mem_keys_of_annotationsOn (path.lists t inside)
  simpa using distinct.length_le_of_subset declared

/-- **A limit above the number of types is never reached.** -/
theorem unwarned_of_types_lt (room : g.types.length < c.depth.levels) (e : Target) :
    (run g.model c (start g.model e)).warned = false := by
  cases late : (run g.model c (start g.model e)).warned with
  | false => rfl
  | true =>
    obtain ⟨ts, length, path⟩ := (explores_run g.model c e).exists_path_of_warning rfl late
    have short := length_le_of_pathOutside path
    omega

theorem debug_of_types_lt (room : g.types.length < c.depth.levels) (e : Target) :
    ∀ event ∈ (Search.find g.model c e).events, event.level = .debug :=
  (explores_run g.model c e).debug_of_unwarned (unwarned_of_types_lt room e)

end Graph

end Hallmark
