/-
# Hallmark.Proofs.Query.Written -- queries put together from groups

A query is made longer by a group whose body holds no bracket (`withGroup`).  Whatever stands
before it, even a bracket that was never closed, is read as it was and the group as one more:
its `[` abandons what is open, and its `]` closes the body (`groups_append_group`).  The kind
stays the same, since a query has one whether or not a `[` follows.  So a kind without `[` and
groups behind it are read as that kind and the conditions of those groups, in order
(`Expression.ofText_written`).
-/
import Hallmark.Proofs.Query.Group
import Hallmark.Query.Expression

namespace Hallmark

set_option autoImplicit false

namespace Query

/-- A text without brackets. -/
def Bare (s : String) : Prop := '[' ∉ s.toList ∧ ']' ∉ s.toList

instance (s : String) : Decidable (Bare s) :=
  inferInstanceAs (Decidable ('[' ∉ s.toList ∧ ']' ∉ s.toList))

/-- A query with one more group. -/
def withGroup (query body : String) : String := query ++ "[" ++ body ++ "]"

/-- A kind with groups behind it. -/
def written (kind : String) (bodies : List String) : String := bodies.foldl withGroup kind

theorem toList_withGroup (query body : String) :
    (withGroup query body).toList = query.toList ++ '[' :: (body.toList ++ [']']) := by
  simp [withGroup]

theorem written_append (kind : String) (bodies more : List String) :
    written kind (bodies ++ more) = written (written kind bodies) more :=
  List.foldl_append

/-- The query for everything holds no group. -/
theorem withGroup_ne_matchAll (query body : String) : withGroup query body ≠ matchAll := by
  intro same
  have opened : '[' ∈ (withGroup query body).toList := by simp [toList_withGroup]
  rw [same] at opened
  revert opened
  decide

theorem written_ne_matchAll (kind : String) {bodies : List String} (some_ : bodies ≠ []) :
    written kind bodies ≠ matchAll := by
  rw [← List.dropLast_concat_getLast some_, written_append]
  exact withGroup_ne_matchAll _ _

/-! ## Reading a group -/

theorem foldl_read_bare {body : List Char} (no_open : '[' ∉ body) (no_close : ']' ∉ body)
    (held : List Char) (closed : List (List Char)) :
    body.foldl Grouping.read ⟨some held, closed⟩ = ⟨some (body.reverse ++ held), closed⟩ := by
  induction body generalizing held with
  | nil => rfl
  | cons c rest ih =>
    rw [List.mem_cons, not_or] at no_open no_close
    have read : Grouping.read ⟨some held, closed⟩ c = ⟨some (c :: held), closed⟩ := by
      rw [Grouping.read, if_neg (Ne.symm no_open.1), if_neg (Ne.symm no_close.1)]
      rfl
    rw [List.foldl_cons, read, ih no_open.2 no_close.2, List.reverse_cons, List.append_assoc]
    rfl

/-- A group behind a text is read as one more group. -/
theorem groups_append_group (cs : List Char) {body : List Char} (no_open : '[' ∉ body)
    (no_close : ']' ∉ body) : groups (cs ++ '[' :: (body ++ [']'])) = groups cs ++ [body] := by
  have opens (g : Grouping) : g.read '[' = ⟨some [], g.closed⟩ := rfl
  have closes (held : List Char) (closed : List (List Char)) :
      Grouping.read ⟨some held, closed⟩ ']' = ⟨none, held.reverse :: closed⟩ := rfl
  rw [groups, groups, List.foldl_append, List.foldl_cons, opens, List.foldl_append,
    foldl_read_bare no_open no_close, List.foldl_cons, List.foldl_nil, closes]
  simp

namespace Expression

theorem conditions_ofText (query : String) : (ofText query).conditions =
    (groups query.toList).map fun body => Property.ofText (String.ofList body) := by
  rw [ofText, groups_dropWhile]

/-- The kind of a query ends before a `[` that is put behind it. -/
theorem kind_ofText_of_opened {query longer : String} {rest : List Char}
    (opened : longer.toList = query.toList ++ '[' :: rest) :
    (ofText longer).kind = (ofText query).kind := by
  simp only [ofText, opened]
  congr 1
  induction query.toList with
  | nil => rfl
  | cons c cs ih => simp only [List.cons_append, List.takeWhile_cons, ih]

theorem ofText_withGroup (query : String) {body : String} (bare : Bare body) :
    ofText (withGroup query body) =
      ⟨(ofText query).kind, (ofText query).conditions ++ [Property.ofText body]⟩ := by
  have kind := kind_ofText_of_opened (toList_withGroup query body)
  have conditions : (ofText (withGroup query body)).conditions
      = (ofText query).conditions ++ [Property.ofText body] := by
    rw [conditions_ofText, conditions_ofText, toList_withGroup,
      groups_append_group _ bare.1 bare.2]
    simp
  rw [← kind, ← conditions]

theorem ofText_of_plain {kind : String} (plain : '[' ∉ kind.toList) : ofText kind = ⟨kind, []⟩ := by
  have all : ∀ c ∈ kind.toList, c ≠ '[' := fun c member same => plain (same ▸ member)
  have kind_eq : kind.toList.takeWhile (· ≠ '[') = kind.toList := by
    rw [List.takeWhile_eq_self_iff]
    simpa using all
  have conditions : groups kind.toList = [] := by
    rw [groups, foldl_read_start all]
    rfl
  rw [ofText, groups_dropWhile, conditions, kind_eq, String.ofList_toList]
  rfl

/-- A kind and groups behind it are read as that kind and the conditions of the groups. -/
theorem ofText_written {kind : String} (plain : '[' ∉ kind.toList) {bodies : List String}
    (bare : ∀ body ∈ bodies, Bare body) :
    ofText (written kind bodies) = ⟨kind, bodies.map Property.ofText⟩ := by
  induction bodies using List.reverseRecOn with
  | nil => exact ofText_of_plain plain
  | append_singleton bodies body ih =>
    rw [List.forall_mem_append] at bare
    rw [written_append, written, List.foldl_cons, List.foldl_nil,
      ofText_withGroup _ (bare.2 body List.mem_cons_self), ih bare.1, List.map_append]
    rfl

end Expression

end Query

end Hallmark
