/-
# Hallmark.Proofs.Matching.Conjunction -- groups of a query are conditions that all have to hold

What a query says of what was found for an entity is decided by the kind and by each group on
its own.  So groups behind a kind are a conjunction: those of two queries together hold if
each of the two queries does, and neither their order nor a repetition counts.  A group behind
any query whatever, malformed or not, can only narrow it; even behind `matchAll`, which is
then no longer the query for everything but one for a kind of that name.
-/
import Mathlib.Data.List.Basic
import Hallmark.Graph.Basic
import Hallmark.Proofs.Matching.Answer
import Hallmark.Proofs.Query.Written
import Hallmark.Proofs.Search.Exploration

namespace Hallmark

set_option autoImplicit false

open Document Query

/-! ## Answers to queries -/

/-- A query is a conjunction of a kind and groups; where one fails the other does. -/
structure Query.Conjunctive (answer : String → Except Fault Bool) : Prop where
  append : ∀ kind bodies more, '[' ∉ kind.toList → bodies ≠ [] → more ≠ [] →
    (∀ body ∈ bodies ++ more, Bare body) →
    answer (written kind (bodies ++ more)) = (do
      let first ← answer (written kind bodies)
      let second ← answer (written kind more)
      return first && second)
  same_groups : ∀ kind bodies others, '[' ∉ kind.toList → bodies ≠ [] →
    (∀ body ∈ bodies, Bare body) → (∀ body, body ∈ others ↔ body ∈ bodies) →
    answer (written kind others) = answer (written kind bodies)
  narrows : ∀ query body, Bare body →
    answer (withGroup query body) = .ok true → answer query = .ok true

/-- The answer to a query, by how the entity is written and how it is described. -/
def Query.answer (shown : Except Fault String) (described : Except Fault (Option Descriptor))
    (query : String) : Except Fault Bool :=
  if query = matchAll then .ok true else described >>= verdict shown query

namespace Descriptor

variable {d : Descriptor} {kind query body : String} {bodies : List String}

theorem satisfies_written_iff (plain : '[' ∉ kind.toList) (bare : ∀ body ∈ bodies, Bare body) :
    d.satisfies (Expression.ofText (written kind bodies)) = true ↔
      Expression.acceptsKind ⟨kind, []⟩ d.kind = true ∧
        ∀ body ∈ bodies, d.objection? (Property.ofText body) = none := by
  rw [satisfies_iff, Expression.ofText_written plain bare, List.forall_mem_map]
  rfl

theorem satisfies_of_withGroup (bare : Bare body)
    (satisfied : d.satisfies (Expression.ofText (withGroup query body)) = true) :
    d.satisfies (Expression.ofText query) = true := by
  rw [satisfies_iff, Expression.ofText_withGroup query bare, List.forall_mem_append] at satisfied
  rw [satisfies_iff]
  exact ⟨satisfied.1, satisfied.2.1⟩

end Descriptor

section Answers

variable {shown : Except Fault String} {described : Except Fault (Option Descriptor)}

theorem Query.answer_written {kind : String} {bodies : List String} (some_ : bodies ≠ []) :
    answer shown described (written kind bodies)
      = described >>= verdict shown (written kind bodies) :=
  if_neg (written_ne_matchAll kind some_)

theorem Query.conjunctive_answer : Conjunctive (answer shown described) where
  append kind bodies more plain some_ some_more bare := by
    have some_both : bodies ++ more ≠ [] := List.append_ne_nil_of_left_ne_nil some_ more
    obtain ⟨bare_bodies, bare_more⟩ := List.forall_mem_append.1 bare
    rw [answer_written some_both, answer_written some_, answer_written some_more]
    rcases described with f | _ | d
    · rfl
    · cases shown <;> rfl
    · refine congrArg Except.ok ?_
      rw [Bool.eq_iff_iff, Bool.and_eq_true, Descriptor.satisfies_written_iff plain bare,
        Descriptor.satisfies_written_iff plain bare_bodies,
        Descriptor.satisfies_written_iff plain bare_more, List.forall_mem_append]
      tauto
  same_groups kind bodies others plain some_ bare same := by
    have some_others : others ≠ [] := by
      rintro rfl
      obtain ⟨body, member⟩ := List.exists_mem_of_ne_nil bodies some_
      exact List.not_mem_nil ((same body).2 member)
    have bare_others : ∀ body ∈ others, Bare body :=
      fun body member => bare body ((same body).1 member)
    rw [answer_written some_others, answer_written some_]
    rcases described with f | _ | d
    · rfl
    · rfl
    · refine congrArg Except.ok ?_
      rw [Bool.eq_iff_iff, Descriptor.satisfies_written_iff plain bare_others,
        Descriptor.satisfies_written_iff plain bare]
      simp only [same]
  narrows query body bare holds := by
    rw [answer, if_neg (withGroup_ne_matchAll query body)] at holds
    by_cases all : query = matchAll
    · exact if_pos all
    rw [answer, if_neg all]
    obtain ⟨found, returned, decided⟩ := bind_eq_ok_iff.1 holds
    cases found with
    | none =>
      obtain ⟨-, -, never⟩ := map_eq_ok_iff.1 decided
      cases never
    | some d =>
      rw [returned]
      exact congrArg Except.ok (Descriptor.satisfies_of_withGroup bare (Except.ok.inj decided))

end Answers

section Model

variable {E A T : Type} [DecidableEq T] (M : Model E A T) (c : Settings)

/-- Whether an entity is accepted by a query; not, if that fails. -/
def Model.verdict (query : String) (e : E) : Bool :=
  (M.accepts c e query).answer.toOption.getD false

theorem Model.verdict_iff (query : String) (e : E) :
    M.verdict c query e = true ↔ (M.accepts c e query).answer = .ok true := by
  rw [verdict]
  cases (M.accepts c e query).answer <;> simp [Except.toOption]

theorem Model.answer_accepts_of_exists {query : String} {e : E}
    (returned : ∃ b, (M.accepts c e query).answer = .ok b) :
    (M.accepts c e query).answer = .ok (M.verdict c query e) := by
  obtain ⟨b, accepted⟩ := returned
  rw [verdict, accepted]
  rfl

/-- **Groups are a conjunction.** Where the searches for some entities return, groups behind a
kind all have to hold for each of them, whatever their order and however often they stand.  A
query is decided for every entity that can be written, and a group behind any query narrows it,
so that fewer are selected. -/
theorem Model.accepts_conjunctive (entities : List E)
    (described : ∀ e ∈ entities, ∃ d, (M.describe c e).answer = .ok d) :
    (∀ e ∈ entities, Conjunctive (fun query => (M.accepts c e query).answer) ∧
      (Returns (M.shown e) → ∀ query, ∃ b, (M.accepts c e query).answer = .ok b)) ∧
    ∀ query body, Bare body →
      ((∀ e ∈ entities, Returns (M.shown e)) → ∃ fewer,
        (M.select c entities (.text (withGroup query body))).answer = .ok fewer) ∧
      ∀ fewer, (M.select c entities (.text (withGroup query body))).answer = .ok fewer →
        ∃ more, (M.select c entities (.text query)).answer = .ok more ∧ fewer.Sublist more := by
  have laws : ∀ e, Conjunctive fun query => (M.accepts c e query).answer := by
    intro e
    simp only [M.answer_accepts]
    exact conjunctive_answer
  have decides : ∀ e ∈ entities, Returns (M.shown e) → M.Decides c e := by
    intro e member written
    obtain ⟨found, returned⟩ := described e member
    exact ⟨found, returned, fun _ => written⟩
  have decided : ∀ e ∈ entities, Returns (M.shown e) → ∀ query,
      ∃ b, (M.accepts c e query).answer = .ok b :=
    fun e member written query => (M.exists_accepts_iff c e query).2 (.inr (decides e member written))
  refine ⟨fun e member => ⟨laws e, decided e member⟩, fun query body bare => ⟨fun written => ?_, ?_⟩⟩
  · exact (M.exists_select_iff c _ entities).2 fun e member => decided e member (written e member) _
  · intro fewer selected
    have returned := (M.exists_select_iff c _ entities).1 ⟨fewer, selected⟩
    have returned_too : ∀ e ∈ entities, ∃ b, (M.accepts c e query).answer = .ok b := by
      intro e member
      refine (M.exists_accepts_iff c e query).2 (.inr ?_)
      exact ((M.exists_accepts_iff c e _).1 (returned e member)).resolve_left
        (withGroup_ne_matchAll query body)
    have kept := M.answer_select_of_verdicts c
      fun e member => M.answer_accepts_of_exists c (returned e member)
    have kept_too := M.answer_select_of_verdicts c
      fun e member => M.answer_accepts_of_exists c (returned_too e member)
    rw [kept] at selected
    cases selected
    refine ⟨_, kept_too, List.monotone_filter_right entities fun e accepted => ?_⟩
    rw [M.verdict_iff] at accepted ⊢
    exact (laws e).narrows query body bare accepted

end Model

/-! ## Two entities and a third -/

namespace Query.Narrowed

def metadata (properties : List Value) : Graph.Annotation :=
  ⟨Settings.defaultMetadataType, [(.text "kind", .text "K"), (.text "properties", .list properties)]⟩

def graph : Graph where
  entities := [(.text "both", [metadata [.text "x=1", .text "flag"]]),
    (.text "one", [metadata [.text "flag"]]), (.text "bare", [])]
  types := []
  defaults := []

def both : Graph.Target := .entity (.text "both")

def one : Graph.Target := .entity (.text "one")

def bare : Graph.Target := .entity (.text "bare")

theorem describe_both : (graph.model.describe Settings.default both).answer =
    .ok (some ⟨"K", [⟨"x", some "1"⟩, ⟨"flag", none⟩]⟩) := by
  rw [Model.answer_describe, Search.find_of_first (M := graph.model) (e := both) rfl rfl]
  rfl

theorem describe_one : (graph.model.describe Settings.default one).answer =
    .ok (some ⟨"K", [⟨"flag", none⟩]⟩) := by
  rw [Model.answer_describe, Search.find_of_first (M := graph.model) (e := one) rfl rfl]
  rfl

theorem describe_bare : (graph.model.describe Settings.default bare).answer = .ok none := by
  rw [Model.answer_describe, Search.find, Search.run_eq_of_explores (M := graph.model)
    (c := Settings.default) (e := bare) (.nothing _ _ _)]
  rfl

theorem described : ∀ e ∈ [both, one, bare],
    ∃ d, (graph.model.describe Settings.default e).answer = .ok d := by
  simp only [List.forall_mem_cons]
  exact ⟨⟨_, describe_both⟩, ⟨_, describe_one⟩, ⟨_, describe_bare⟩, List.forall_mem_nil _⟩

theorem accepts_property : (graph.model.accepts Settings.default both "K[x=1]").answer = .ok true ∧
    (graph.model.accepts Settings.default both "K[flag]").answer = .ok true ∧
    (graph.model.accepts Settings.default one "K[x=1]").answer = .ok false := by
  refine ⟨?_, ?_, ?_⟩
  · rw [Model.answer_accepts, describe_both]
    rfl
  · rw [Model.answer_accepts, describe_both]
    rfl
  · rw [Model.answer_accepts, describe_one]
    rfl

/-- Of two entities of a kind one has both properties; and a group that follows a bracket which
was never closed narrows a selection like any other. -/
theorem accepts_narrowed :
    (graph.model.accepts Settings.default both "K[x=1][flag]").answer = .ok true ∧
      (graph.model.accepts Settings.default one "K[x=1][flag]").answer = .ok false ∧
      ∃ fewer more,
        (graph.model.select Settings.default [both, one, bare] (.text "K[x[x=1]")).answer
          = .ok fewer ∧
        (graph.model.select Settings.default [both, one, bare] (.text "K[x")).answer = .ok more ∧
        fewer.Sublist more := by
  obtain ⟨decided, narrowed⟩ :=
    graph.model.accepts_conjunctive Settings.default [both, one, bare] described
  obtain ⟨x_both, flag_both, x_one⟩ := accepts_property
  have two : written "K" (["x=1"] ++ ["flag"]) = "K[x=1][flag]" := by decide
  have first : written "K" ["x=1"] = "K[x=1]" := by decide
  have second : written "K" ["flag"] = "K[flag]" := by decide
  have split (answer : String → Except Fault Bool) (laws : Conjunctive answer) :
      answer "K[x=1][flag]" = (do return (← answer "K[x=1]") && (← answer "K[flag]")) := by
    rw [← two, ← first, ← second]
    exact laws.append "K" ["x=1"] ["flag"] (by decide) (by decide) (by decide) (by decide)
  refine ⟨?_, ?_, ?_⟩
  · obtain ⟨laws, -⟩ := decided both (by simp)
    rw [split _ laws, x_both, flag_both]
    rfl
  · obtain ⟨laws, returns⟩ := decided one (by simp)
    obtain ⟨b, flag_one⟩ := returns ⟨_, rfl⟩ "K[flag]"
    rw [split _ laws, x_one, flag_one]
    rfl
  · obtain ⟨returns, sublist⟩ := narrowed "K[x" "x=1" (by decide)
    have written : ∀ e ∈ [both, one, bare], Returns (graph.model.shown e) := by
      simp only [List.forall_mem_cons]
      exact ⟨⟨_, rfl⟩, ⟨_, rfl⟩, ⟨_, rfl⟩, nofun⟩
    obtain ⟨fewer, selected⟩ := returns written
    obtain ⟨more, selected_too, fewer_of_more⟩ := sublist fewer selected
    exact ⟨fewer, more, selected, selected_too, fewer_of_more⟩

end Query.Narrowed

end Hallmark
