/-
# Hallmark.Proofs.Search.Acyclic -- searching without a record of what was entered

`Plain` is the recursion that remembers nothing: it goes below each ordinary type every
time the type is listed, as often and as deep as that leads.  On a model in which no
ordinary type comes back to itself it ends (`exists_plain`), and what it finds is the
end of the least route (`Plain.finds`): below a type, the types passed on the way
to it cannot appear again, so that asking for fresh types forbids nothing.
-/
import Mathlib.Data.Set.Finite.Basic
import Mathlib.Logic.Relation
import Hallmark.Proofs.Search.Route

namespace Hallmark

set_option autoImplicit false

open Relation

variable {E A T : Type}

namespace Model

variable (M : Model E A T) (c : Settings)

/-- `u` is an ordinary type listed on the declaration of `t`. -/
def Below (u t : T) : Prop :=
  M.role c u = .ok .ordinary ∧ ∃ a ∈ M.annotationsOn t, M.typeOf a = u

/-- No ordinary type comes back to itself. -/
def Acyclic : Prop := ∀ t, ¬ TransGen (M.Below c) t t

variable {M c}

theorem Below.mem_types {u t : T} (below : M.Below c u t) : u ∈ M.types := by
  obtain ⟨-, a, -, rfl⟩ := below
  exact M.typeOf_mem a

/-- As a model mentions finitely many types, descending ends. -/
theorem Acyclic.wellFounded (acyclic : M.Acyclic c) : WellFounded (M.Below c) := by
  have finite : Finite {t // t ∈ M.types} := (List.finite_toSet M.types).to_subtype
  let descent : {t // t ∈ M.types} → {t // t ∈ M.types} → Prop :=
    fun u t => TransGen (M.Below c) u.1 t.1
  have transitive : IsTrans _ descent := ⟨fun _ _ _ => TransGen.trans⟩
  have irreflexive : Std.Irrefl descent := ⟨fun t => acyclic t.1⟩
  have founded : WellFounded descent := Finite.wellFounded_of_trans_of_irrefl descent
  have accessible : ∀ t : {t // t ∈ M.types}, Acc (M.Below c) t.1 := by
    intro t
    induction t using founded.induction with
    | _ t ih => exact ⟨_, fun u below => ih ⟨u, below.mem_types⟩ (.single below)⟩
  exact ⟨fun t => ⟨_, fun u below => accessible ⟨u, below.mem_types⟩⟩⟩

end Model

namespace Search

/-- `Plain M c l r`: looking through `l` and, each time, through everything below its
ordinary types ends with `r`. -/
inductive Plain (M : Model E A T) (c : Settings) : List A → Except Fault (Option A) → Prop where
  | nothing : Plain M c [] (.ok none)
  | fault {a : A} {rest : List A} {f : Fault} (faulty : M.role c (M.typeOf a) = .error f) :
    Plain M c (a :: rest) (.error f)
  | metadata {a : A} {rest : List A} (metadata : M.role c (M.typeOf a) = .ok .metadata) :
    Plain M c (a :: rest) (.ok (some a))
  | reserved {a : A} {rest : List A} {r : Except Fault (Option A)}
    (reserved : M.role c (M.typeOf a) = .ok .reserved) (later : Plain M c rest r) :
    Plain M c (a :: rest) r
  | answered {a : A} {rest : List A} {r : Except Fault (Option A)}
    (ordinary : M.role c (M.typeOf a) = .ok .ordinary)
    (below : Plain M c (M.annotationsOn (M.typeOf a)) r) (answered : r ≠ .ok none) :
    Plain M c (a :: rest) r
  | returned {a : A} {rest : List A} {r : Except Fault (Option A)}
    (ordinary : M.role c (M.typeOf a) = .ok .ordinary)
    (below : Plain M c (M.annotationsOn (M.typeOf a)) (.ok none)) (later : Plain M c rest r) :
    Plain M c (a :: rest) r

variable {M : Model E A T} {c : Settings} {passed : List T} {l rest : List A} {a : A}
  {r : Except Fault (Option A)}

/-! ## The recursion ends -/

theorem exists_plain_of_below
    (below : ∀ a ∈ l, M.role c (M.typeOf a) = .ok .ordinary →
      ∃ r, Plain M c (M.annotationsOn (M.typeOf a)) r) : ∃ r, Plain M c l r := by
  induction l with
  | nil => exact ⟨_, .nothing⟩
  | cons a rest ih =>
    obtain ⟨later, rested⟩ := ih fun b member => below b (List.mem_cons_of_mem _ member)
    rcases Settings.role_cases c (M.name (M.typeOf a)) with metadata | ⟨reserved, -⟩ |
      ⟨ordinary, -⟩ | ⟨f, faulty, -⟩
    · exact ⟨_, .metadata metadata⟩
    · exact ⟨_, .reserved reserved rested⟩
    · obtain ⟨r, deeper⟩ := below a List.mem_cons_self ordinary
      by_cases answered : r = .ok none
      · subst answered
        exact ⟨_, .returned ordinary deeper rested⟩
      · exact ⟨_, .answered ordinary deeper answered⟩
    · exact ⟨_, .fault faulty⟩

theorem exists_plain (acyclic : M.Acyclic c) (l : List A) : ∃ r, Plain M c l r := by
  have declared : ∀ t, ∃ r, Plain M c (M.annotationsOn t) r := by
    intro t
    induction t using acyclic.wellFounded.induction with
    | _ t ih =>
      exact exists_plain_of_below fun a member ordinary => ih _ ⟨ordinary, a, member, rfl⟩
  exact exists_plain_of_below fun a _ _ => declared (M.typeOf a)

/-! ## What it finds -/

/-- No type that was passed is met again from a list. -/
def Clear (M : Model E A T) (c : Settings) (passed : List T) (l : List A) : Prop :=
  ∀ t ∈ passed, ∀ a ∈ l, M.role c (M.typeOf a) = .ok .ordinary →
    ¬ ReflTransGen (M.Below c) t (M.typeOf a)

theorem Clear.tail (clear : Clear M c passed (a :: rest)) : Clear M c passed rest :=
  fun t passes b member => clear t passes b (List.mem_cons_of_mem _ member)

theorem Clear.fresh (clear : Clear M c passed (a :: rest))
    (ordinary : M.role c (M.typeOf a) = .ok .ordinary) : M.typeOf a ∉ passed :=
  fun passes => clear _ passes a List.mem_cons_self ordinary .refl

/-- Below a type of an acyclic model, neither it nor what was passed is met again. -/
theorem Clear.below (clear : Clear M c passed (a :: rest)) (acyclic : M.Acyclic c)
    (ordinary : M.role c (M.typeOf a) = .ok .ordinary) :
    Clear M c (M.typeOf a :: passed) (M.annotationsOn (M.typeOf a)) := by
  intro t passes b member ordinary_b reached
  have step : M.Below c (M.typeOf b) (M.typeOf a) := ⟨ordinary_b, b, member, rfl⟩
  rcases List.mem_cons.1 passes with rfl | earlier
  · exact acyclic _ (.tail' reached step)
  · exact clear t earlier a List.mem_cons_self ordinary (reached.tail step)

/-- **The plain recursion of an acyclic model finds the end of the least route.** -/
theorem Plain.finds (acyclic : M.Acyclic c) (plain : Plain M c l r)
    (clear : Clear M c passed l) : Finds M c passed l r := by
  induction plain generalizing passed with
  | nothing => exact .inl ⟨rfl, fun ps q => not_route_nil⟩
  | fault faulty => exact (isLeastRoute_zero (verdict?_of_fault faulty)).finds
  | metadata metadata => exact (isLeastRoute_zero (verdict?_of_metadata metadata)).finds
  | reserved reserved later ih =>
    exact (ih clear.tail).cons fun ps q => not_route_zero_of_reserved reserved
  | answered ordinary below answered ih =>
    exact (ih (clear.below acyclic ordinary)).through_zero answered ordinary (clear.fresh ordinary)
  | returned ordinary below later ih_below ih_later =>
    have nothing_below := (ih_below (clear.below acyclic ordinary)).not_route
    exact (ih_later clear.tail).cons fun ps q route =>
      nothing_below ps q (route.below_of_zero ordinary).2

end Search

end Hallmark
