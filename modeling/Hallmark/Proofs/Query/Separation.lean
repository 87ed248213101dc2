/-
# Hallmark.Proofs.Query.Separation -- what queries tell apart

Of a descriptor a query sees the kind and, for every name but the empty one, whether there is
a property of that name and which value the last one has.  Descriptors in which all this is
the same are `Indistinct`: no query, malformed or not, tells them apart.

It also sees all of it, if a kind and properties can be written in a query, where brackets
have a meaning of their own (`Askable`).  Then the kind is asked for by itself, and a property
as it is written back, of any kind.  Two descriptors are indistinct as soon as these few
queries of the two (`probes`) do not tell them apart: a descriptor grants its own probes, so
the other one grants them as well, and a property without a value is told from one that has a
value by the probe of the latter (`get?_of_agree`).
-/
import Hallmark.Proofs.Query.Meaning

namespace Hallmark

set_option autoImplicit false

open Document Query

namespace Descriptor

/-- Of one kind, and for every name but the empty one both without a property, or with the
same value or none in the last one. -/
structure Indistinct (d e : Descriptor) : Prop where
  kind : d.kind = e.kind
  held : ∀ name, name ≠ "" → d.byName.get? name = e.byName.get? name

/-! ## What a condition sees -/

theorem objection?_eq_none_iff_get? (d : Descriptor) (condition : Property) :
    d.objection? condition = none ↔ condition.name ≠ "" ∧
      ∃ held, d.byName.get? condition.name = some held ∧
        ∀ wanted, condition.value = some wanted → held = some wanted := by
  rw [objection?_eq_none_iff, get?_byName]
  simp only [Option.map_eq_some_iff, exists_exists_and_eq_and]

theorem satisfies_of_indistinct {d e : Descriptor} (same : Indistinct d e) (x : Expression) :
    d.satisfies x = e.satisfies x := by
  have condition (p : Property) : d.objection? p = none ↔ e.objection? p = none := by
    rw [objection?_eq_none_iff_get?, objection?_eq_none_iff_get?]
    exact and_congr_right fun named => by rw [same.held _ named]
  rw [Bool.eq_iff_iff, satisfies_iff, satisfies_iff, same.kind]
  simp only [condition]

/-! ## Names that are held -/

theorem mem_of_get?_byName {d : Descriptor} {name : String} {value : Option String}
    (held : d.byName.get? name = some value) : ⟨name, value⟩ ∈ d.properties := by
  rw [get?_byName, Option.map_eq_some_iff] at held
  obtain ⟨p, last, rfl⟩ := held
  have member := List.mem_of_getLast? last
  simp only [List.mem_filter, decide_eq_true_eq] at member
  obtain ⟨member, rfl⟩ := member
  exact member

theorem get?_byName_eq_none {d : Descriptor} {name : String}
    (absent : ∀ p ∈ d.properties, p.name ≠ name) : d.byName.get? name = none := by
  rw [Option.eq_none_iff_forall_ne_some]
  exact fun value held => absent _ (mem_of_get?_byName held) rfl

/-- Only the names that one of the two holds have to be compared. -/
theorem indistinct_iff (d e : Descriptor) : Indistinct d e ↔ d.kind = e.kind ∧
    ∀ p ∈ d.properties ++ e.properties, p.name ≠ "" →
      d.byName.get? p.name = e.byName.get? p.name := by
  constructor
  · exact fun same => ⟨same.kind, fun p _ => same.held p.name⟩
  · rintro ⟨kind, held⟩
    refine ⟨kind, fun name named => ?_⟩
    by_cases present : ∃ p ∈ d.properties ++ e.properties, p.name = name
    · obtain ⟨p, member, rfl⟩ := present
      exact held p member named
    · simp only [not_exists, not_and, List.forall_mem_append] at present
      rw [get?_byName_eq_none present.1, get?_byName_eq_none present.2]

instance (d e : Descriptor) : Decidable (Indistinct d e) :=
  decidable_of_iff _ (indistinct_iff d e).symm

/-! ## Probes -/

/-- A descriptor whose kind and properties can be written in a query. -/
structure Askable (d : Descriptor) : Prop where
  kind : '[' ∉ d.kind.toList
  name : ∀ p ∈ d.properties, '=' ∉ p.name.toList
  bare : ∀ p ∈ d.properties, Bare p.shown

/-- The query for the kind, and for every property the query for it in any kind. -/
def probes (d : Descriptor) : List String :=
  d.kind :: d.properties.map fun p => withGroup anyKind p.shown

/-- None of the queries tells two descriptors apart. -/
def AgreeOn (queries : List String) (d e : Descriptor) : Prop :=
  ∀ query ∈ queries, d.satisfies (Expression.ofText query) = e.satisfies (Expression.ofText query)

variable {d e : Descriptor}

theorem AgreeOn.symm {queries : List String} (agree : AgreeOn queries d e) : AgreeOn queries e d :=
  fun query member => (agree query member).symm

theorem AgreeOn.anti {queries fewer : List String} (agree : AgreeOn queries d e)
    (subset : fewer ⊆ queries) : AgreeOn fewer d e :=
  fun query member => agree query (subset member)

theorem satisfies_kind_iff {kind : String} (plain : '[' ∉ kind.toList) (d : Descriptor) :
    d.satisfies (Expression.ofText kind) = true ↔ kind = anyKind ∨ kind = d.kind := by
  rw [satisfies_iff, Expression.ofText_of_plain plain]
  simp [Expression.acceptsKind, Expression.acceptsEveryKind]

theorem satisfies_property_iff {p : Property} (plain : '=' ∉ p.name.toList) (bare : Bare p.shown)
    (d : Descriptor) :
    d.satisfies (Expression.ofText (withGroup anyKind p.shown)) = true ↔ d.objection? p = none := by
  have any_plain : '[' ∉ anyKind.toList := by decide
  rw [satisfies_iff, Expression.ofText_withGroup _ bare, Property.ofText_shown plain,
    Expression.ofText_of_plain any_plain]
  simp [Expression.acceptsKind, Expression.acceptsEveryKind]

/-- The other one is of the kind that is asked for, unless every kind is. -/
theorem kind_of_agree (askable : Askable d) (agree : AgreeOn d.probes d e) :
    d.kind = anyKind ∨ d.kind = e.kind := by
  rw [← satisfies_kind_iff askable.kind e, ← agree d.kind List.mem_cons_self,
    satisfies_kind_iff askable.kind d]
  exact .inr rfl

/-- A property that a descriptor holds is asked for by a probe, and the other one grants it. -/
theorem exists_get?_of_agree (askable : Askable d) (agree : AgreeOn d.probes d e) {name : String}
    (named : name ≠ "") {value : Option String} (held : d.byName.get? name = some value) :
    ∃ value', e.byName.get? name = some value' ∧
      ∀ wanted, value = some wanted → value' = some wanted := by
  have member : ⟨name, value⟩ ∈ d.properties := mem_of_get?_byName held
  have own : d.objection? ⟨name, value⟩ = none :=
    (objection?_eq_none_iff_get? d _).2 ⟨named, value, held, fun _ => id⟩
  have asked := satisfies_property_iff (askable.name _ member) (askable.bare _ member)
  have granted : e.objection? ⟨name, value⟩ = none := by
    rw [← asked e, ← agree _ (.tail _ (List.mem_map_of_mem member)), asked d]
    exact own
  exact ((objection?_eq_none_iff_get? e _).1 granted).2

theorem get?_of_agree (askable : Askable d) (askable' : Askable e) (agree : AgreeOn d.probes d e)
    (agree' : AgreeOn e.probes d e) {name : String} (named : name ≠ "") {value : Option String}
    (held : d.byName.get? name = some value) : e.byName.get? name = some value := by
  obtain ⟨value', held', asked⟩ := exists_get?_of_agree askable agree named held
  obtain ⟨_, found, asked'⟩ := exists_get?_of_agree askable' agree'.symm named held'
  obtain rfl := Option.some.inj (held.symm.trans found)
  -- A value on either side is asked for on the other; where neither has one they agree.
  have same : value' = value := by
    cases value with
    | some v => exact asked v rfl
    | none =>
      cases value' with
      | none => rfl
      | some v => exact (asked' v rfl).symm
  rw [held', same]

/-- Descriptors that no probe of the two tells apart are indistinct. -/
theorem indistinct_of_agree (askable : Askable d) (askable' : Askable e)
    (agree : AgreeOn (d.probes ++ e.probes) d e) : Indistinct d e := by
  have own : AgreeOn d.probes d e := agree.anti (List.subset_append_left _ _)
  have other : AgreeOn e.probes d e := agree.anti (List.subset_append_right _ _)
  constructor
  case kind =>
    rcases kind_of_agree askable own with every | same
    · rcases kind_of_agree askable' other.symm with every' | same
      · rw [every, every']
      · exact same.symm
    · exact same
  case held =>
    refine fun name named => Option.ext fun value => ⟨?_, ?_⟩
    · exact get?_of_agree askable askable' own other named
    · exact get?_of_agree askable' askable other.symm own.symm named

/-! ## Descriptors from texts -/

theorem askable_ofText {kind : String} {texts : List String} (plain : '[' ∉ kind.toList)
    (bare : ∀ s ∈ texts, Bare s) : Askable ⟨kind, texts.map Property.ofText⟩ where
  kind := plain
  name := List.forall_mem_map.2 fun s _ => Property.not_mem_name_ofText s
  bare := List.forall_mem_map.2 fun s member => by
    rw [Property.shown_ofText]
    exact bare s member

/-- **Queries separate descriptors.** From kinds without `[` and texts without brackets two
descriptors are built, and no query tells them apart exactly if they are of one kind and
each name but the empty one stands for the same in both. -/
theorem satisfies_eq_iff_indistinct {kind kind' : String} {texts texts' : List String}
    (plain : '[' ∉ kind.toList) (plain' : '[' ∉ kind'.toList)
    (bare : ∀ s ∈ texts, Bare s) (bare' : ∀ s ∈ texts', Bare s) :
    ∃ d e, ofValues (.text kind) (.list (texts.map .text)) = .ok d ∧
      ofValues (.text kind') (.list (texts'.map .text)) = .ok e ∧
      ((∀ query, d.satisfies (Expression.ofText query) = e.satisfies (Expression.ofText query)) ↔
        Indistinct d e) := by
  refine ⟨_, _, ofValues_text kind texts, ofValues_text kind' texts', ?_, ?_⟩
  · intro same
    exact indistinct_of_agree (askable_ofText plain bare) (askable_ofText plain' bare')
      fun query _ => same query
  · exact fun same query => satisfies_of_indistinct same (Expression.ofText query)

end Descriptor

/-! ## Descriptors of the kind that is written like every kind -/

namespace Query.Overridden

/-- A property that a later one of its name overrides, the order of properties and properties
without a name are not seen by queries; a value is, even the empty one. -/
theorem separated_overridden :
    (∃ d e,
      Descriptor.ofValues (.text "*")
        (.list [.text "x=1", .text "x=a=b", .text "flag", .text ""]) = .ok d ∧
      Descriptor.ofValues (.text "*") (.list [.text "flag", .text "=5", .text "x=a=b"]) = .ok e ∧
      ∀ query, d.satisfies (Expression.ofText query) = e.satisfies (Expression.ofText query)) ∧
    ∃ d e,
      Descriptor.ofValues (.text "*") (.list [.text "flag"]) = .ok d ∧
      Descriptor.ofValues (.text "*") (.list [.text "flag="]) = .ok e ∧
      ¬ ∀ query, d.satisfies (Expression.ofText query) = e.satisfies (Expression.ofText query) := by
  have plain : '[' ∉ "*".toList := by decide
  constructor
  · have bare : ∀ s ∈ ["x=1", "x=a=b", "flag", ""], Bare s := by decide
    have bare' : ∀ s ∈ ["flag", "=5", "x=a=b"], Bare s := by decide
    obtain ⟨d, e, read, read', separated⟩ :=
      Descriptor.satisfies_eq_iff_indistinct plain plain bare bare'
    refine ⟨d, e, read, read', separated.2 ?_⟩
    rw [Descriptor.ofValues_text] at read read'
    cases read
    cases read'
    decide
  · have bare : ∀ s ∈ ["flag"], Bare s := by decide
    have bare' : ∀ s ∈ ["flag="], Bare s := by decide
    obtain ⟨d, e, read, read', separated⟩ :=
      Descriptor.satisfies_eq_iff_indistinct plain plain bare bare'
    refine ⟨d, e, read, read', fun same => absurd (separated.1 same) ?_⟩
    rw [Descriptor.ofValues_text] at read read'
    cases read
    cases read'
    decide

end Query.Overridden

end Hallmark
