/-
# Hallmark.Proofs.Query.Interspersed -- queries with other text behind their groups

Behind each group of a query any text may stand that holds no group itself, one in which no
`]` comes after a `[`.  It may close what is not open and leave open what it opens; none of
this is read.  What it leaves open is abandoned at the next group, whose `[` begins a body
anew, and a stray `]` finds no body, since each group leaves none open
(`groups_append_groupless`).

So a kind without `[` and any properties that can be written as groups are read back from a
query in which they are written in order, whatever else stands behind each of them
(`Expression.ofText_interspersed`).
-/
import Hallmark.Matching
import Hallmark.Proofs.Query.Written

namespace Hallmark

set_option autoImplicit false

namespace Query

/-- No `]` comes after a `[`. -/
def Groupless (s : String) : Prop := s.toList.Pairwise fun c d => ¬ (c = '[' ∧ d = ']')

instance (s : String) : Decidable (Groupless s) :=
  inferInstanceAs (Decidable (s.toList.Pairwise fun c d => ¬ (c = '[' ∧ d = ']')))

/-- A property that can be written as a group. -/
structure Property.Groupable (p : Property) : Prop where
  unseparated : '=' ∉ p.name.toList
  name : Bare p.name
  value : ∀ value ∈ p.value, Bare value

instance (p : Property) : Decidable p.Groupable :=
  decidable_of_iff ('=' ∉ p.name.toList ∧ Bare p.name ∧ ∀ value ∈ p.value, Bare value)
    ⟨fun parts => ⟨parts.1, parts.2.1, parts.2.2⟩,
      fun groupable => ⟨groupable.unseparated, groupable.name, groupable.value⟩⟩

/-- A kind with groups for properties, and some text behind each of them. -/
def interspersed (kind : String) (parts : List (Property × String)) : String :=
  parts.foldl (fun query part => withGroup query part.1.shown ++ part.2) kind

theorem Property.Groupable.bare_shown {p : Property} (groupable : p.Groupable) : Bare p.shown := by
  obtain ⟨name, value⟩ := p
  cases value with
  | none => exact groupable.name
  | some value =>
    have bare_name := groupable.name
    have bare_value := groupable.value value rfl
    constructor
    · simpa [shown] using ⟨bare_name.1, bare_value.1⟩
    · simpa [shown] using ⟨bare_name.2, bare_value.2⟩

/-! ## Text without groups -/

theorem closed_foldl_unclosed {junk : List Char} (no_close : ']' ∉ junk) (g : Grouping) :
    (junk.foldl Grouping.read g).closed = g.closed := by
  induction junk generalizing g with
  | nil => rfl
  | cons c rest ih =>
    rw [List.mem_cons, not_or] at no_close
    have same : (g.read c).closed = g.closed := by
      rw [Grouping.read, if_neg (Ne.symm no_close.1)]
      split <;> rfl
    rw [List.foldl_cons, ih no_close.2, same]

/-- Where no group is open, a text without groups closes none. -/
theorem closed_foldl_groupless {junk : List Char}
    (groupless : junk.Pairwise fun c d => ¬ (c = '[' ∧ d = ']')) (closed : List (List Char)) :
    (junk.foldl Grouping.read ⟨none, closed⟩).closed = closed := by
  induction junk with
  | nil => rfl
  | cons c rest ih =>
    obtain ⟨first, others⟩ := List.pairwise_cons.1 groupless
    rw [List.foldl_cons, Grouping.read]
    split
    · rename_i opens
      exact closed_foldl_unclosed (fun member => first _ member ⟨opens, rfl⟩) _
    · split <;> exact ih others

/-- Behind a `]` there is nothing to be read in a text without groups. -/
theorem groups_append_groupless (cs : List Char) {junk : List Char}
    (groupless : junk.Pairwise fun c d => ¬ (c = '[' ∧ d = ']')) :
    groups (cs ++ ']' :: junk) = groups (cs ++ [']']) := by
  have shut (g : Grouping) : g.read ']' = ⟨none, (g.read ']').closed⟩ := rfl
  rw [groups, groups, List.foldl_append, List.foldl_append, List.foldl_cons, List.foldl_cons,
    List.foldl_nil, shut, closed_foldl_groupless groupless]

namespace Expression

/-- A text without groups behind a group changes nothing. -/
theorem ofText_append_groupless (query body : String) {junk : String}
    (groupless : Groupless junk) :
    ofText (withGroup query body ++ junk) = ofText (withGroup query body) := by
  have longer : (withGroup query body ++ junk).toList
      = query.toList ++ '[' :: (body.toList ++ ']' :: junk.toList) := by
    simp [toList_withGroup]
  have kind : (ofText (withGroup query body ++ junk)).kind = (ofText (withGroup query body)).kind := by
    rw [kind_ofText_of_opened longer, kind_ofText_of_opened (toList_withGroup query body)]
  have same : groups (query.toList ++ '[' :: (body.toList ++ ']' :: junk.toList))
      = groups (query.toList ++ '[' :: (body.toList ++ [']'])) := by
    simpa using groups_append_groupless (query.toList ++ '[' :: body.toList) groupless
  have conditions : (ofText (withGroup query body ++ junk)).conditions
      = (ofText (withGroup query body)).conditions := by
    rw [conditions_ofText, conditions_ofText, longer, toList_withGroup, same]
  calc ofText (withGroup query body ++ junk)
      = ⟨(ofText (withGroup query body ++ junk)).kind,
          (ofText (withGroup query body ++ junk)).conditions⟩ := rfl
    _ = ofText (withGroup query body) := by rw [kind, conditions]

variable {kind : String} {parts : List (Property × String)}

theorem ofText_interspersed_eq (plain : '[' ∉ kind.toList)
    (groupable : ∀ part ∈ parts, part.1.Groupable) (groupless : ∀ part ∈ parts, Groupless part.2) :
    ofText (interspersed kind parts) = ⟨kind, parts.map (·.1)⟩ := by
  induction parts using List.reverseRecOn with
  | nil => exact ofText_of_plain plain
  | append_singleton parts part ih =>
    rw [List.forall_mem_append] at groupable groupless
    have last := groupable.2 part List.mem_cons_self
    rw [interspersed, List.foldl_append, List.foldl_cons, List.foldl_nil, ← interspersed,
      ofText_append_groupless _ _ (groupless.2 part List.mem_cons_self),
      ofText_withGroup _ last.bare_shown, ih groupable.1 groupless.1,
      Property.ofText_shown last.unseparated, List.map_append]
    rfl

end Expression

end Query

/-- A descriptor satisfies no query with a condition that has no name. -/
theorem Descriptor.satisfies_eq_false_of_nameless (d : Descriptor) {x : Query.Expression}
    {condition : Query.Property} (asked : condition ∈ x.conditions) (nameless : condition.name = "") :
    d.satisfies x = false := by
  have objected : d.objection? condition ≠ none := by
    simp [objection?, Query.Property.isSatisfiable, nameless]
  refine Bool.eq_false_iff.2 fun satisfied => objected ?_
  exact (d.satisfies_iff x).1 satisfied |>.2 condition asked

namespace Query.Expression

variable {kind : String} {parts : List (Property × String)}

/-- **A query is read as it was written.** A kind without `[` and properties that can be written
as groups are read back in order from a query in which text without groups stands behind each
group; and a property without a name is satisfied by nothing. -/
theorem ofText_interspersed (plain : '[' ∉ kind.toList)
    (groupable : ∀ part ∈ parts, part.1.Groupable) (groupless : ∀ part ∈ parts, Groupless part.2) :
    ofText (interspersed kind parts) = ⟨kind, parts.map (·.1)⟩ ∧
      ∀ part ∈ parts, (part.1.isSatisfiable = false ↔ part.1.name = "") ∧
        (part.1.name = "" →
          ∀ d : Descriptor, d.satisfies (ofText (interspersed kind parts)) = false) := by
  have read := ofText_interspersed_eq plain groupable groupless
  refine ⟨read, fun part member => ⟨by simp [Property.isSatisfiable], fun nameless d => ?_⟩⟩
  rw [read]
  exact d.satisfies_eq_false_of_nameless (List.mem_map_of_mem member) nameless

end Query.Expression

/-! ## Brackets that are passed over -/

namespace Query.Scattered

/-- A value with a `=`, a group left open, a property without a name, a `]` that closes nothing,
an empty value and an open group at the end. -/
def parts : List (Property × String) :=
  [(⟨"table", some "a=b"⟩, "]x[y"), (⟨"", none⟩, "]]"), (⟨"audited", some ""⟩, "[[ n=1")]

theorem interspersed_eq :
    interspersed "E]" parts = "E][table=a=b]]x[y[]]][audited=][[ n=1" := by decide

theorem ofText_scattered :
    Expression.ofText "E][table=a=b]]x[y[]]][audited=][[ n=1"
      = ⟨"E]", [⟨"table", some "a=b"⟩, ⟨"", none⟩, ⟨"audited", some ""⟩]⟩ ∧
    ∀ d : Descriptor, d.satisfies (Expression.ofText "E][table=a=b]]x[y[]]][audited=][[ n=1") = false := by
  have plain : '[' ∉ "E]".toList := by decide
  have groupable : ∀ part ∈ parts, part.1.Groupable := by decide
  have groupless : ∀ part ∈ parts, Groupless part.2 := by decide
  have read := Expression.ofText_interspersed plain groupable groupless
  rw [interspersed_eq] at read
  exact ⟨read.1, fun d => (read.2 _ (.tail _ (.head _))).2 rfl d⟩

end Query.Scattered

end Hallmark
