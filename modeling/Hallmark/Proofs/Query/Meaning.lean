/-
# Hallmark.Proofs.Query.Meaning -- what a query says, read off its text

The text before the first `[` says of which kind a descriptor has to be, `*` allowing every
kind, and each pair of brackets with none between them says something of its properties:
that there is one of a name, and which value the last one of that name has.  A descriptor
of which all this is true `Fits` the query, and an entity matches a query exactly if the
descriptor that is found for it fits (`accepts_iff_fits`); only `matchAll` is not read.
-/
import Hallmark.Graph.Basic
import Hallmark.Proofs.Query.Written
import Hallmark.Proofs.Matching.Answer
import Hallmark.Proofs.Search.Exploration

namespace Hallmark

set_option autoImplicit false

open Document Query

namespace Query

/-- The text before the first `=`, or all of it if there is none. -/
def nameIn (body : List Char) : String := String.ofList (body.takeWhile (· ≠ '='))

/-- The text after the first `=`. -/
def valueIn (body : List Char) : String := String.ofList (body.dropWhile (· ≠ '=')).tail

/-- The text before the first `[`, or all of it if there is none. -/
def kindIn (query : String) : String := String.ofList (query.toList.takeWhile (· ≠ '['))

/-- There is something behind a separator exactly if there is a separator. -/
theorem tail?_dropWhile (separator : Char) (cs : List Char) :
    (cs.dropWhile (· ≠ separator)).tail?
      = if separator ∈ cs then some (cs.dropWhile (· ≠ separator)).tail else none := by
  induction cs with
  | nil => rfl
  | cons c rest ih =>
    by_cases same : c = separator
    · simp [same]
    · simpa [same, Ne.symm same] using ih

/-- A text is read as a name and, if it has a `=`, a value. -/
theorem Property.ofText_ofList (body : List Char) : Property.ofText (String.ofList body) =
    ⟨nameIn body, if '=' ∈ body then some (valueIn body) else none⟩ := by
  have value : (body.dropWhile (· ≠ '=')).tail?.map String.ofList
      = if '=' ∈ body then some (valueIn body) else none := by
    rw [tail?_dropWhile]
    split <;> rfl
  rw [← value]
  simp [Property.ofText, Text.cut, nameIn]

end Query

namespace Descriptor

/-- The last property of a name. -/
def lastNamed? (d : Descriptor) (name : String) : Option Property :=
  (d.properties.filter fun p => p.name = name).getLast?

/-- What the text of a group asks of a descriptor: it names a property, and the last one of
that name has the value that is asked for, if one is. -/
structure Grants (d : Descriptor) (body : List Char) : Prop where
  named : nameIn body ≠ ""
  present : ∃ p ∈ d.properties, p.name = nameIn body
  valued : '=' ∈ body → ∃ p, d.lastNamed? (nameIn body) = some p ∧ p.value = some (valueIn body)

/-- What a query asks of a descriptor. -/
structure Fits (d : Descriptor) (query : String) : Prop where
  kind : kindIn query = anyKind ∨ kindIn query = d.kind
  groups : ∀ i j, Span query.toList i j → d.Grants (between query.toList i j)

/-! ## Properties by name -/

theorem get?_byName (d : Descriptor) (name : String) :
    d.byName.get? name = (d.lastNamed? name).map (·.value) := by
  rw [byName, Dictionary.ofEntries, Dictionary.get?_merge (Dictionary.sharp_of_lawful name),
    lastNamed?, List.filter_map, List.getLast?_map]
  simp [Dictionary.get?, Function.comp_def, beq_eq_decide]

theorem exists_lastNamed?_iff (d : Descriptor) (name : String) :
    (∃ p, d.lastNamed? name = some p) ↔ ∃ p ∈ d.properties, p.name = name := by
  rw [← Option.isSome_iff_exists, lastNamed?, List.getLast?_isSome]
  simp [List.filter_eq_nil_iff]

/-- A condition holds if the last property of its name has the value that it wants. -/
theorem objection?_eq_none_iff (d : Descriptor) (condition : Property) :
    d.objection? condition = none ↔ condition.name ≠ "" ∧
      ∃ p, d.lastNamed? condition.name = some p ∧
        ∀ wanted, condition.value = some wanted → p.value = some wanted := by
  unfold objection?
  by_cases unnamed : condition.name = ""
  · simp [Property.isSatisfiable, unnamed]
  · rw [get?_byName]
    cases last : d.lastNamed? condition.name with
    | none => simp [Property.isSatisfiable, unnamed]
    | some p =>
      cases wanted : condition.value with
      | none => simp [Property.isSatisfiable, unnamed]
      | some value => simp [Property.isSatisfiable, unnamed]

theorem objection?_ofText_eq_none_iff (d : Descriptor) (body : List Char) :
    d.objection? (Property.ofText (String.ofList body)) = none ↔ d.Grants body := by
  rw [objection?_eq_none_iff, Property.ofText_ofList]
  constructor
  · rintro ⟨named, p, last, wanted⟩
    refine ⟨named, (d.exists_lastNamed?_iff _).1 ⟨p, last⟩, fun valued => ⟨p, last, ?_⟩⟩
    exact wanted _ (if_pos valued)
  · rintro ⟨named, present, valued⟩
    by_cases separated : '=' ∈ body
    · obtain ⟨p, last, value⟩ := valued separated
      refine ⟨named, p, last, fun wanted asked => ?_⟩
      rw [if_pos separated] at asked
      exact value.trans asked
    · obtain ⟨p, last⟩ := (d.exists_lastNamed?_iff _).2 present
      refine ⟨named, p, last, fun wanted asked => ?_⟩
      rw [if_neg separated] at asked
      cases asked

/-- Satisfying a query that was read is fitting its text. -/
theorem satisfies_ofText_iff (d : Descriptor) (query : String) :
    d.satisfies (Expression.ofText query) = true ↔ d.Fits query := by
  have kinds : (Expression.ofText query).acceptsKind d.kind = true ↔
      kindIn query = anyKind ∨ kindIn query = d.kind := by
    simp [Expression.acceptsKind, Expression.acceptsEveryKind, Expression.ofText, kindIn]
  have conditions : (∀ p ∈ (Expression.ofText query).conditions, d.objection? p = none) ↔
      ∀ i j, Span query.toList i j → d.Grants (between query.toList i j) := by
    simp only [Expression.conditions_ofText, List.mem_map, mem_groups_iff]
    constructor
    · intro none_ i j span
      exact (d.objection?_ofText_eq_none_iff _).1 (none_ _ ⟨_, ⟨i, j, span, rfl⟩, rfl⟩)
    · rintro granted _ ⟨_, ⟨i, j, span, rfl⟩, rfl⟩
      exact (d.objection?_ofText_eq_none_iff _).2 (granted i j span)
  rw [satisfies_iff, kinds, conditions]
  exact ⟨fun both => ⟨both.1, both.2⟩, fun fits => ⟨fits.kind, fits.groups⟩⟩

instance (d : Descriptor) (query : String) : Decidable (d.Fits query) :=
  decidable_of_iff _ (d.satisfies_ofText_iff query)

end Descriptor

/-- **The meaning of a query.** Where the search for a descriptor returns, an entity matches
a query exactly if the query is `matchAll` or there is a descriptor that fits its text.  Any
other query is answered unless there is no descriptor and the entity cannot be written. -/
theorem Model.accepts_iff_fits {E A T : Type} [DecidableEq T] (M : Model E A T) (c : Settings)
    (e : E) {found : Option Descriptor} (described : (M.describe c e).answer = .ok found)
    (query : String) :
    ((M.accepts c e query).answer = .ok true ↔
      query = matchAll ∨ ∃ d, found = some d ∧ d.Fits query) ∧
    ((∃ b, (M.accepts c e query).answer = .ok b) ↔
      query = matchAll ∨ (found = none → Returns (M.shown e))) := by
  constructor
  · rw [M.answer_accepts, described]
    by_cases all : query = matchAll
    · simp [all]
    rw [if_neg all, or_iff_right all]
    change Query.verdict (M.shown e) query found = .ok true ↔ _
    cases found with
    | none =>
      refine ⟨fun accepted => ?_, nofun⟩
      obtain ⟨_, _, never⟩ := map_eq_ok_iff.1 accepted
      cases never
    | some d => simp [Query.verdict, d.satisfies_ofText_iff]
  · rw [M.exists_accepts_iff, Model.Decides, described]
    refine or_congr_right ⟨?_, fun written => ⟨found, rfl, written⟩⟩
    rintro ⟨_, same, written⟩
    cases same
    exact written

/-! ## A property without a name -/

namespace Query.Nameless

def graph : Graph where
  entities := [(.text "e", [⟨Settings.defaultMetadataType, [(.text "kind", .text "K"),
    (.text "properties", .list [.text "x=1", .text "x=2", .text "", .text "flag"])]⟩])]
  types := []
  defaults := []

def entity : Graph.Target := .entity (.text "e")

def descriptor : Descriptor := ⟨"K", [⟨"x", some "1"⟩, ⟨"x", some "2"⟩, ⟨"", none⟩, ⟨"flag", none⟩]⟩

theorem answer_eq :
    (graph.model.describe Settings.default entity).answer = .ok (some descriptor) := by
  rw [Model.answer_describe, Search.find_of_first (M := graph.model) (e := entity) rfl rfl]
  rfl

/-- Of nested, stray and open brackets only the spans count, and of properties the last of a
name; but no group finds the property that has no name, and no bare one has an empty value. -/
theorem accepts_nameless :
    (graph.model.accepts Settings.default entity "*[a[x=2]b][flag][").answer = .ok true ∧
      (graph.model.accepts Settings.default entity "K[]").answer = .ok false ∧
      (graph.model.accepts Settings.default entity "K[flag=]").answer = .ok false := by
  have meaning := graph.model.accepts_iff_fits Settings.default entity answer_eq
  have rejected : ∀ query, query ≠ matchAll → ¬ descriptor.Fits query →
      (graph.model.accepts Settings.default entity query).answer = .ok false := by
    intro query read unfit
    obtain ⟨accepted_iff, answered_iff⟩ := meaning query
    obtain ⟨b, answered⟩ := answered_iff.2 (.inr nofun)
    cases b with
    | false => exact answered
    | true =>
      rcases accepted_iff.1 answered with all | ⟨d, same, fits⟩
      · exact absurd all read
      · cases same
        exact absurd fits unfit
  refine ⟨?_, rejected _ (by decide) (by decide), rejected _ (by decide) (by decide)⟩
  have fits : descriptor.Fits "*[a[x=2]b][flag][" := by decide
  exact (meaning _).1.2 (.inr ⟨descriptor, rfl, fits⟩)

end Query.Nameless

end Hallmark
