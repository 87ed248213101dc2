/-
# Hallmark.Proofs.Matching.Answer -- the answers of matching, without its events

An entity is accepted by a query if the query is `matchAll`, and otherwise if the descriptor
that a search finds for it satisfies the query; an entity without one is not, if it can be
written.  A search that fails makes every other query fail with it, and so does an entity that
is to be written and cannot be; a selection fails with the first of its entities that does.
-/
import Hallmark.Matching

namespace Hallmark

set_option autoImplicit false

open Document Query

/-- The answer to a query other than `matchAll`, by how the entity is written and by what was
found for it. -/
def Query.verdict (shown : Except Fault String) (query : String) :
    Option Descriptor → Except Fault Bool
  | none => (fun _ => false) <$> shown
  | some d => .ok (d.satisfies (Expression.ofText query))

theorem Query.exists_verdict_iff {shown : Except Fault String} (query : String)
    (found : Option Descriptor) :
    (∃ b, verdict shown query found = .ok b) ↔ (found = none → Returns shown) := by
  cases found with
  | none => exact exists_map_iff.trans ⟨fun written _ => written, fun written => written rfl⟩
  | some d => exact ⟨fun _ => nofun, fun _ => ⟨_, rfl⟩⟩

namespace Model

variable {E A T : Type} [DecidableEq T] (M : Model E A T) (c : Settings) (e : E)

theorem answer_describe : (M.describe c e).answer = (do
    M.lookUp e
    match ← (Search.find M c e).answer with
    | none => .ok none
    | some a => some <$> (M.attributes a >>= Descriptor.ofAttributes)) := by
  unfold describe
  rw [Traced.answer_bind, Traced.answer_ofExcept]
  congr 1
  funext _
  rw [Traced.answer_bind]
  congr 1
  funext found
  cases found with
  | none => rfl
  | some a =>
    simp only [Traced.answer_bind, Traced.answer_ofExcept, Traced.answer_pure]
    rfl

omit [DecidableEq T] in
theorem answer_disclaim (query : String) :
    (M.disclaim e (.text query)).answer = (fun _ => false) <$> M.shown e := by
  rw [disclaim, Traced.answer_bind, Traced.answer_ofExcept]
  cases M.shown e <;> rfl

theorem answer_accepts (query : String) : (M.accepts c e query).answer =
    if query = matchAll then .ok true
    else (M.describe c e).answer >>= verdict (M.shown e) query := by
  unfold accepts
  split
  · rfl
  · rw [Traced.answer_bind]
    congr 1
    funext found
    cases found with
    | none => exact M.answer_disclaim e query
    | some d => rfl

/-- The search for an entity returns, and if it finds nothing the entity can be written. -/
def Decides : Prop :=
  ∃ found, (M.describe c e).answer = .ok found ∧ (found = none → Returns (M.shown e))

/-- A query returns if it needs no descriptor, or if it is decided for the entity. -/
theorem exists_accepts_iff (query : String) :
    (∃ b, (M.accepts c e query).answer = .ok b) ↔ query = matchAll ∨ M.Decides c e := by
  rw [answer_accepts]
  by_cases all : query = matchAll
  · simp [all]
  · rw [if_neg all, or_iff_right all, Decides]
    simp only [bind_eq_ok_iff, ← exists_verdict_iff query]
    exact ⟨fun ⟨b, found, described, decided⟩ => ⟨found, described, b, decided⟩,
      fun ⟨found, described, b, decided⟩ => ⟨b, found, described, decided⟩⟩

/-! ## Selections -/

theorem answer_keep_cons (query : String) (rest : List E) :
    (M.keep c (.text query) (e :: rest)).answer = (do
      let chosen ← (M.accepts c e query).answer
      let others ← (M.keep c (.text query) rest).answer
      return if chosen then e :: others else others) := by
  rw [keep, Traced.answer_bind]
  congr 1
  funext chosen
  rw [Traced.answer_bind]
  rfl

/-- A selection returns if the query does for each entity. -/
theorem exists_keep_iff (query : String) (entities : List E) :
    (∃ kept, (M.keep c (.text query) entities).answer = .ok kept) ↔
      ∀ e ∈ entities, ∃ b, (M.accepts c e query).answer = .ok b := by
  induction entities with
  | nil => exact ⟨fun _ e member => absurd member List.not_mem_nil, fun _ => ⟨[], rfl⟩⟩
  | cons e rest ih =>
    simp only [answer_keep_cons, bind_eq_ok_iff, List.forall_mem_cons, ← ih]
    constructor
    · rintro ⟨kept, chosen, accepted, others, kept_others, -⟩
      exact ⟨⟨chosen, accepted⟩, others, kept_others⟩
    · rintro ⟨⟨chosen, accepted⟩, others, kept_others⟩
      exact ⟨_, chosen, accepted, others, kept_others, rfl⟩

/-- A selection is what is kept; the text of a query can always be reported. -/
theorem answer_select (query : String) (entities : List E) :
    (M.select c entities (.text query)).answer = (M.keep c (.text query) entities).answer := by
  rw [select, Traced.answer_bind]
  cases (M.keep c (.text query) entities).answer <;> rfl

theorem exists_select_iff (query : String) (entities : List E) :
    (∃ kept, (M.select c entities (.text query)).answer = .ok kept) ↔
      ∀ e ∈ entities, ∃ b, (M.accepts c e query).answer = .ok b := by
  rw [answer_select, exists_keep_iff]

/-- Where a query is decided for each entity, those are selected for which it is true. -/
theorem answer_keep_of_verdicts {query : String} {entities : List E} {verdict : E → Bool}
    (decided : ∀ e ∈ entities, (M.accepts c e query).answer = .ok (verdict e)) :
    (M.keep c (.text query) entities).answer = .ok (entities.filter verdict) := by
  induction entities with
  | nil => rfl
  | cons e rest ih =>
    obtain ⟨first, others⟩ := List.forall_mem_cons.1 decided
    rw [answer_keep_cons, first, ih others, List.filter_cons]
    rfl

theorem answer_select_of_verdicts {query : String} {entities : List E} {verdict : E → Bool}
    (decided : ∀ e ∈ entities, (M.accepts c e query).answer = .ok (verdict e)) :
    (M.select c entities (.text query)).answer = .ok (entities.filter verdict) := by
  rw [answer_select, answer_keep_of_verdicts M c decided]

end Model

end Hallmark
