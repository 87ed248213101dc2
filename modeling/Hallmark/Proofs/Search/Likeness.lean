/-
# Hallmark.Proofs.Search.Likeness -- models that look alike to a search

A search sees of an annotation the name of its type, whether the type was entered before,
and, if the type is an ordinary one, the annotations on its declaration.  Two models in
which related annotations agree on that are `Alike`; what else they declare, on reserved
types, on the metadata type or elsewhere, makes no difference.  Searches of two such models
that begin with related lists go hand in hand: they report the same events and end alike,
on related annotations if they find any (`Explores.alike`).  If related metadata also gives
the same descriptor, the two entities are described alike and accepted by the same queries.
-/
import Mathlib.Data.List.Forall2
import Hallmark.Proofs.Matching.Answer
import Hallmark.Proofs.Search.Exploration

namespace Hallmark.Search

set_option autoImplicit false

variable {E A T F B U : Type} {M : Model E A T} {N : Model F B U} {c : Settings}
  {R : A → B → Prop} {room : Nat} {entered : List T} {known : List U} {warned : Bool} {l : List A}
  {m : List B} {a : A} {b : B} {x : Exploration A T}

/-- Related annotations look the same to a search. -/
structure Alike (M : Model E A T) (N : Model F B U) (c : Settings) (R : A → B → Prop) : Prop where
  name : ∀ a b, R a b → N.name (N.typeOf b) = M.name (M.typeOf a)
  type : ∀ a b a' b', R a b → R a' b' → (M.typeOf a = M.typeOf a' ↔ N.typeOf b = N.typeOf b')
  below : ∀ a b, R a b → M.role c (M.typeOf a) = .ok .ordinary →
    List.Forall₂ R (M.annotationsOn (M.typeOf a)) (N.annotationsOn (N.typeOf b))

/-- Of related annotations both have a type in the lists or neither has. -/
def Matched (M : Model E A T) (N : Model F B U) (R : A → B → Prop) (entered : List T)
    (known : List U) : Prop :=
  ∀ a b, R a b → (M.typeOf a ∈ entered ↔ N.typeOf b ∈ known)

/-- Searches that end alike: with nothing, with the same fault or with related metadata. -/
inductive Ends (M : Model E A T) (c : Settings) (R : A → B → Prop) :
    Option (Except Fault A) → Option (Except Fault B) → Prop where
  | nothing : Ends M c R none none
  | fault (f : Fault) : Ends M c R (some (.error f)) (some (.error f))
  | found {a : A} {b : B} (related : R a b)
    (metadata : M.role c (M.typeOf a) = .ok .metadata) :
    Ends M c R (some (.ok a)) (some (.ok b))

/-- Explorations that went hand in hand. -/
structure Same (M : Model E A T) (N : Model F B U) (c : Settings) (R : A → B → Prop)
    (x : Exploration A T) (y : Exploration B U) : Prop where
  events : y.events = x.events
  warned : y.warned = x.warned
  matched : Matched M N R x.entered y.entered
  ends : Ends M c R x.answer y.answer

theorem Alike.role (alike : Alike M N c R) (related : R a b) :
    N.role c (N.typeOf b) = M.role c (M.typeOf a) := by
  rw [Model.role, Model.role, alike.name a b related]

theorem Alike.matched_cons (alike : Alike M N c R) (related : R a b)
    (matched : Matched M N R entered known) :
    Matched M N R (M.typeOf a :: entered) (N.typeOf b :: known) := by
  intro a' b' related'
  rw [List.mem_cons, List.mem_cons, alike.type a' b' a b related' related, matched a' b' related']

theorem Ends.isSome {r : Option (Except Fault A)} {s : Option (Except Fault B)}
    (ends : Ends M c R r s) (answered : r.isSome) : s.isSome := by
  cases ends with
  | nothing => cases answered
  | fault => rfl
  | found => rfl

theorem Ends.eq_none {r : Option (Except Fault A)} {s : Option (Except Fault B)}
    (ends : Ends M c R r s) (open_ : r = none) : s = none := by
  cases ends with
  | nothing => rfl
  | fault => cases open_
  | found => cases open_

theorem Same.after {y : Exploration B U} (same : Same M N c R x y) (events : List Event) :
    Same M N c R (x.after events) (y.after events) where
  events := congrArg (events ++ ·) same.events
  warned := same.warned
  matched := same.matched
  ends := same.ends

/-- **Models that look alike are explored alike.** -/
theorem Explores.alike (alike : Alike M N c R) (explored : Explores M c room entered warned l x)
    (related : List.Forall₂ R l m) (matched : Matched M N R entered known) :
    ∃ y, Explores N c room known warned m y ∧ Same M N c R x y := by
  induction explored generalizing m known with
  | nothing room entered warned =>
    cases related
    exact ⟨_, .nothing room known warned, rfl, rfl, matched, .nothing⟩
  | @fault _ _ _ _ _ f faulty =>
    cases related with
    | cons head tail =>
      exact ⟨_, .fault ((alike.role head).trans faulty), rfl, rfl, matched, .fault f⟩
  | metadata metadata =>
    cases related with
    | cons head tail =>
      refine ⟨_, .metadata ((alike.role head).trans metadata), ?_, rfl, matched, .found head metadata⟩
      rw [alike.name _ _ head]
  | reserved reserved _ ih =>
    cases related with
    | cons head tail =>
      obtain ⟨y, later, same⟩ := ih tail matched
      exact ⟨y, .reserved ((alike.role head).trans reserved) later, same⟩
  | revisited ordinary seen _ ih =>
    cases related with
    | cons head tail =>
      obtain ⟨y, later, same⟩ := ih tail matched
      have seen_too := (matched _ _ head).1 seen
      refine ⟨_, .revisited ((alike.role head).trans ordinary) seen_too later, ?_⟩
      rw [alike.name _ _ head]
      exact same.after _
  | @abandoned _ warned _ _ _ ordinary fresh _ ih =>
    cases related with
    | cons head tail =>
      obtain ⟨y, later, same⟩ := ih tail matched
      have fresh_too := mt (matched _ _ head).2 fresh
      refine ⟨_, .abandoned ((alike.role head).trans ordinary) fresh_too later, ?_⟩
      rw [alike.name _ _ head]
      exact same.after _
  | answered ordinary fresh _ answered ih =>
    cases related with
    | cons head tail =>
      obtain ⟨y, below, same⟩ := ih (alike.below _ _ head ordinary) (alike.matched_cons head matched)
      have fresh_too := mt (matched _ _ head).2 fresh
      exact ⟨y, .answered ((alike.role head).trans ordinary) fresh_too below
        (same.ends.isSome answered), same⟩
  | returned ordinary fresh _ open_ _ ih_below ih_later =>
    cases related with
    | cons head tail =>
      obtain ⟨y, below, same⟩ :=
        ih_below (alike.below _ _ head ordinary) (alike.matched_cons head matched)
      obtain ⟨z, later, same_later⟩ := ih_later tail same.matched
      have fresh_too := mt (matched _ _ head).2 fresh
      rw [← same.warned] at later
      refine ⟨_, .returned ((alike.role head).trans ordinary) fresh_too below
        (same.ends.eq_none open_) later, ?_⟩
      rw [same.events]
      exact same_later.after _

/-! ## Whole searches -/

variable [DecidableEq T] [DecidableEq U] {e : E} {f : F}

theorem Alike.run (alike : Alike M N c R)
    (start_alike : List.Forall₂ R (M.annotations e) (N.annotations f)) :
    Same M N c R (run M c (start M e)) (run N c (start N f)) := by
  have nothing : Matched M N R [] [] := by simp [Matched]
  obtain ⟨y, explored, same⟩ := (explores_run M c e).alike alike start_alike nothing
  rw [run_eq_of_explores explored]
  exact same

/-- **Entities that look alike are described alike**, with the same events, if metadata that
is related gives the same descriptor. -/
theorem Alike.describe (alike : Alike M N c R) (found : M.lookUp e = N.lookUp f)
    (start_alike : List.Forall₂ R (M.annotations e) (N.annotations f))
    (read : ∀ a b, R a b → M.role c (M.typeOf a) = .ok .metadata →
      (N.attributes b >>= Descriptor.ofAttributes) = (M.attributes a >>= Descriptor.ofAttributes)) :
    N.describe c f = M.describe c e := by
  obtain ⟨events, -, -, ends⟩ := alike.run start_alike
  unfold Model.describe
  rw [found, find, find, Exploration.result, Exploration.result, events]
  congr 1
  funext _
  generalize (Search.run M c (start M e)).answer = r at ends
  generalize (Search.run N c (start N f)).answer = s at ends
  cases ends with
  | nothing => rfl
  | fault => rfl
  | found related metadata =>
    simp only [Functor.map, Except.map, Bind.bind, Traced.bind] at read ⊢
    rw [read _ _ related metadata]

/-- Entities that are described alike and appear alike in events are matched alike, with the
same events. -/
theorem accepts_eq_of_describe_eq (described : N.describe c f = M.describe c e)
    (shown : N.shown f = M.shown e) (query : String) :
    N.accepts c f query = M.accepts c e query := by
  have disclaimed : N.disclaim f (.text query) = M.disclaim e (.text query) := by
    rw [Model.disclaim, Model.disclaim, shown]
  unfold Model.accepts
  rw [described, disclaimed]

/-- Nothing is found for an entity that carries nothing. -/
theorem answer_describe_of_bare (c : Settings) (known : M.lookUp e = .ok ()) (bare : M.annotations e = []) :
    (M.describe c e).answer = .ok none := by
  have ended := Explores.nothing (M := M) (c := c) c.depth.levels [] false
  rw [← bare] at ended
  rw [Model.answer_describe, known, find, run_eq_of_explores ended]
  rfl

end Hallmark.Search
