/-
# Hallmark.Proofs.Search.Barren -- annotations that lead nowhere

A list is `Barren` if no metadata can be reached from it through types that are not reserved.
A search that comes to such a list enters types, and may come to the limit and report it, but
it finds nothing.  What it has entered then are barren types only, so that nothing is missed
later: a type that leads to metadata is entered where it would have been, with as many types
on the path.

That is the invariant of the simulation (`Widens.alwaysAlike`).  One model lists what the
other does and, in places, barren annotations besides (`Padded`); whenever both searches look
at related annotations they have the same room left and have entered the same of the types
that are not barren.  The rest of what they have entered, and whether they have come to the
limit, may differ.
-/
import Hallmark.Proofs.Search.LeastRoute
import Hallmark.Proofs.Search.Likeness

namespace Hallmark

set_option autoImplicit false

namespace Search

variable {E A T F B U : Type} {M : Model E A T} {N : Model F B U} {c : Settings}
  {R : A → B → Prop} {P : B → Prop} {room : Nat} {entered more : List T} {known : List U}
  {warned : Bool} {l rest : List A} {m : List B} {a : A} {b : B} {x : Exploration A T}

/-! ## Barren lists -/

/-- No metadata is reached from a list. -/
def Barren (M : Model E A T) (c : Settings) (l : List A) : Prop := ∀ a, ¬ Leads M c l a

theorem Leads.mono (leads : Leads M c l a) (part : l ⊆ rest) : Leads M c rest a := by
  cases leads with
  | here member metadata => exact .here (part member) metadata
  | through member unreserved below => exact .through (part member) unreserved below

theorem Barren.anti (barren : Barren M c l) (part : rest ⊆ l) : Barren M c rest :=
  fun a leads => barren a (leads.mono part)

theorem Barren.below (barren : Barren M c (a :: rest))
    (ordinary : M.role c (M.typeOf a) = .ok .ordinary) :
    Barren M c (M.annotationsOn (M.typeOf a)) :=
  fun b leads => barren b
    (.through List.mem_cons_self (Settings.isReserved_of_ordinary ordinary) leads)

theorem Barren.not_metadata (barren : Barren M c (a :: rest)) :
    M.role c (M.typeOf a) ≠ .ok .metadata :=
  fun metadata => barren a (.here List.mem_cons_self metadata)

/-- Within annotations that are no metadata and lead to each other only, nothing is reached. -/
theorem barren_of_closed {S : A → Prop} (start : ∀ a ∈ l, S a)
    (closed : ∀ a, S a → M.role c (M.typeOf a) ≠ .ok .metadata ∧
      ∀ b ∈ M.annotationsOn (M.typeOf a), S b) : Barren M c l := by
  intro found leads
  induction leads with
  | here member metadata => exact (closed _ (start _ member)).1 metadata
  | through member _ _ ih => exact ih (closed _ (start _ member)).2

/-- What a search passes over in the end: reserved types, and types with nothing below. -/
def Dead (M : Model E A T) (c : Settings) (a : A) : Prop :=
  M.role c (M.typeOf a) = .ok .reserved ∨
    (M.role c (M.typeOf a) = .ok .ordinary ∧ Barren M c (M.annotationsOn (M.typeOf a)))

theorem Barren.dead_or_fault (barren : Barren M c [a]) :
    Dead M c a ∨ ∃ f, M.role c (M.typeOf a) = .error f := by
  rcases Settings.role_cases c (M.name (M.typeOf a)) with metadata | ⟨reserved, -⟩ |
    ⟨ordinary, -⟩ | ⟨f, faulty, -⟩
  · exact absurd metadata barren.not_metadata
  · exact .inl (.inl reserved)
  · exact .inl (.inr ⟨ordinary, barren.below ordinary⟩)
  · exact .inr ⟨f, faulty⟩

/-- An annotation that is the first metadata of an entity: nothing before it leads to any. -/
structure Foremost (M : Model E A T) (c : Settings) (e : E) (a : A) : Prop where
  metadata : M.role c (M.typeOf a) = .ok .metadata
  split : ∃ before after, M.annotations e = before ++ a :: after ∧ ∀ b ∈ before, Dead M c b

theorem Foremost.mem {e : E} (foremost : Foremost M c e a) : a ∈ M.annotations e := by
  obtain ⟨-, before, after, split, -⟩ := foremost
  rw [split]
  exact List.mem_append_right before List.mem_cons_self

/-! ## Passing over what is dead -/

/-- The same types are in both lists, up to barren ones. -/
def AgreeLive (M : Model E A T) (c : Settings) (entered more : List T) : Prop :=
  ∀ t, ¬ Barren M c (M.annotationsOn t) → (t ∈ entered ↔ t ∈ more)

theorem AgreeLive.refl (M : Model E A T) (c : Settings) (entered : List T) :
    AgreeLive M c entered entered :=
  fun _ _ => Iff.rfl

theorem AgreeLive.trans {last : List T} (first : AgreeLive M c entered more)
    (second : AgreeLive M c more last) : AgreeLive M c entered last :=
  fun t live => (first t live).trans (second t live)

theorem AgreeLive.of_cons {t : T} (agree : AgreeLive M c (t :: entered) more)
    (barren : Barren M c (M.annotationsOn t)) : AgreeLive M c entered more := by
  intro u live
  have other : u ≠ t := fun same => live (same ▸ barren)
  rw [← agree u live, List.mem_cons, or_iff_right other]

/-- A search of a barren list finds nothing and enters barren types only. -/
theorem Explores.open_of_barren (explored : Explores M c room entered warned l x)
    (barren : Barren M c l) (sound : ∀ name f, c.role name ≠ .error f) :
    x.answer = none ∧ AgreeLive M c entered x.entered := by
  induction explored with
  | nothing => exact ⟨rfl, .refl M c _⟩
  | fault faulty => exact absurd faulty (sound _ _)
  | metadata metadata => exact absurd metadata barren.not_metadata
  | reserved _ _ ih => exact ih (barren.anti (List.subset_cons_self _ _))
  | revisited _ _ _ ih => exact ih (barren.anti (List.subset_cons_self _ _))
  | abandoned _ _ _ ih => exact ih (barren.anti (List.subset_cons_self _ _))
  | answered ordinary _ _ answered ih =>
    obtain ⟨open_, -⟩ := ih (barren.below ordinary)
    rw [open_] at answered
    cases answered
  | returned ordinary _ _ _ _ ih_below ih_later =>
    have below_barren := barren.below ordinary
    obtain ⟨-, agree_below⟩ := ih_below below_barren
    obtain ⟨open_, agree_later⟩ := ih_later (barren.anti (List.subset_cons_self _ _))
    exact ⟨open_, (agree_below.of_cons below_barren).trans agree_later⟩

variable [DecidableEq T]

/-- To look at a dead annotation and then at the rest is to look at the rest, with the same
live types entered. -/
theorem Dead.exists_pass (dead : Dead M c a) (room : Nat) (entered : List T) (warned : Bool)
    (rest : List A) : ∃ more late, AgreeLive M c entered more ∧
      ∀ x, Explores M c room more late rest x →
        ∃ y, Explores M c room entered warned (a :: rest) y ∧
          y.answer = x.answer ∧ y.entered = x.entered := by
  rcases dead with reserved | ⟨ordinary, barren⟩
  · refine ⟨entered, warned, .refl M c _, ?_⟩
    intro x later
    exact ⟨x, .reserved reserved later, rfl, rfl⟩
  · by_cases seen : M.typeOf a ∈ entered
    · refine ⟨entered, warned, .refl M c _, ?_⟩
      intro x later
      exact ⟨_, .revisited ordinary seen later, rfl, rfl⟩
    · cases room with
      | zero =>
        refine ⟨entered, true, .refl M c _, ?_⟩
        intro x later
        exact ⟨_, .abandoned ordinary seen later, rfl, rfl⟩
      | succ room =>
        obtain ⟨inner, below⟩ : ∃ inner, Explores M c room (M.typeOf a :: entered) warned
          (M.annotationsOn (M.typeOf a)) inner := ⟨_, explores M c _ _ _ _⟩
        have sound : ∀ name f, c.role name ≠ .error f :=
          fun name f => Settings.role_ne_error_of_ordinary ordinary name f
        obtain ⟨open_, agree⟩ := below.open_of_barren barren sound
        refine ⟨inner.entered, inner.warned, agree.of_cons barren, ?_⟩
        intro x later
        exact ⟨_, .returned ordinary seen below open_ later, rfl, rfl⟩

theorem Foremost.find {e : E} (foremost : Foremost M c e a) :
    (find M c e).answer = .ok (some a) := by
  obtain ⟨metadata, before, after, split, dead⟩ := foremost
  have explored : ∀ room entered warned, ∃ x,
      Explores M c room entered warned (before ++ a :: after) x ∧ x.answer = some (.ok a) := by
    clear split
    intro room entered warned
    induction before generalizing entered warned with
    | nil => exact ⟨_, .metadata metadata, rfl⟩
    | cons b before ih =>
      obtain ⟨passed, others⟩ := List.forall_mem_cons.1 dead
      obtain ⟨more, late, -, pass⟩ := passed.exists_pass room entered warned (before ++ a :: after)
      obtain ⟨x, later, found⟩ := ih others more late
      obtain ⟨y, whole, answer, -⟩ := pass x later
      exact ⟨y, whole, answer.trans found⟩
  obtain ⟨x, run, found⟩ := explored c.depth.levels [] false
  rw [Search.find, run_eq_of_explores (split ▸ run), Exploration.result, found]
  rfl

/-! ## Barren annotations put in -/

omit [DecidableEq T]

/-- The second list is related to the first, with members of `P` put in. -/
inductive Padded (R : A → B → Prop) (P : B → Prop) : List A → List B → Prop where
  | nil : Padded R P [] []
  | keep {a : A} {b : B} {l : List A} {m : List B} (related : R a b) (rest : Padded R P l m) :
    Padded R P (a :: l) (b :: m)
  | pad {b : B} {l : List A} {m : List B} (added : P b) (rest : Padded R P l m) :
    Padded R P l (b :: m)

theorem Padded.exists_related (padded : Padded R P l m) : ∀ a ∈ l, ∃ b ∈ m, R a b := by
  induction padded with
  | nil => exact fun a member => absurd member List.not_mem_nil
  | keep related _ ih =>
    refine List.forall_mem_cons.2 ⟨⟨_, List.mem_cons_self, related⟩, fun a member => ?_⟩
    obtain ⟨b, here, related⟩ := ih a member
    exact ⟨b, List.mem_cons_of_mem _ here, related⟩
  | pad _ _ ih =>
    intro a member
    obtain ⟨b, here, related⟩ := ih a member
    exact ⟨b, List.mem_cons_of_mem _ here, related⟩

theorem Padded.added_or_related (padded : Padded R P l m) : ∀ b ∈ m, P b ∨ ∃ a ∈ l, R a b := by
  induction padded with
  | nil => exact fun b member => absurd member List.not_mem_nil
  | keep related _ ih =>
    refine List.forall_mem_cons.2 ⟨.inr ⟨_, List.mem_cons_self, related⟩, fun b member => ?_⟩
    refine (ih b member).imp_right fun ⟨a, here, related⟩ => ?_
    exact ⟨a, List.mem_cons_of_mem _ here, related⟩
  | pad added _ ih => exact List.forall_mem_cons.2 ⟨.inl added, ih⟩

/-- `N` lists what `M` lists and, besides, barren annotations of `P`. -/
structure Widens (M : Model E A T) (N : Model F B U) (c : Settings) (R : A → B → Prop)
    (P : B → Prop) : Prop where
  name : ∀ a b, R a b → N.name (N.typeOf b) = M.name (M.typeOf a)
  type : ∀ a b a' b', R a b → R a' b' → (M.typeOf a = M.typeOf a' ↔ N.typeOf b = N.typeOf b')
  below : ∀ a b, R a b → M.role c (M.typeOf a) = .ok .ordinary →
    Padded R P (M.annotationsOn (M.typeOf a)) (N.annotationsOn (N.typeOf b))
  barren : ∀ b, P b → Barren N c [b]

theorem Widens.role (widens : Widens M N c R P) (related : R a b) :
    N.role c (N.typeOf b) = M.role c (M.typeOf a) := by
  rw [Model.role, Model.role, widens.name a b related]

theorem Widens.leads (widens : Widens M N c R P) (padded : Padded R P l m)
    (leads : Leads M c l a) : ∃ b, Leads N c m b := by
  induction leads generalizing m with
  | here member metadata =>
    obtain ⟨b, here, related⟩ := padded.exists_related _ member
    exact ⟨b, .here here ((widens.role related).trans metadata)⟩
  | through member unreserved _ ih =>
    obtain ⟨b, here, related⟩ := padded.exists_related _ member
    rcases Settings.role_of_unreserved unreserved with metadata | ordinary
    · exact ⟨b, .here here ((widens.role related).trans metadata)⟩
    · obtain ⟨found, below⟩ := ih (widens.below _ _ related ordinary)
      rw [← widens.name _ _ related] at unreserved
      exact ⟨found, .through here unreserved below⟩

/-- What is put in leads nowhere, so it opens no way to metadata. -/
theorem Widens.leads_of_padded (widens : Widens M N c R P) (padded : Padded R P l m)
    (leads : Leads N c m b) : ∃ a, Leads M c l a := by
  induction leads generalizing l with
  | here member metadata =>
    rcases padded.added_or_related _ member with added | ⟨a, here, related⟩
    · exact absurd metadata (widens.barren _ added).not_metadata
    · exact ⟨a, .here here ((widens.role related).symm.trans metadata)⟩
  | through member unreserved below ih =>
    rcases padded.added_or_related _ member with added | ⟨a, here, related⟩
    · exact absurd (.through List.mem_cons_self unreserved below) (widens.barren _ added _)
    · rw [widens.name _ _ related] at unreserved
      rcases Settings.role_of_unreserved unreserved with metadata | ordinary
      · exact ⟨a, .here here metadata⟩
      · obtain ⟨found, leads⟩ := ih (widens.below _ _ related ordinary)
        exact ⟨found, .through here unreserved leads⟩

theorem Widens.barren_iff (widens : Widens M N c R P) (padded : Padded R P l m) :
    Barren M c l ↔ Barren N c m := by
  constructor
  · intro barren b leads
    obtain ⟨a, found⟩ := widens.leads_of_padded padded leads
    exact barren a found
  · intro barren a leads
    obtain ⟨b, found⟩ := widens.leads padded leads
    exact barren b found

/-! ## The simulation -/

/-- Of related annotations with a live type both have their type in the lists or neither. -/
def MatchedLive (M : Model E A T) (N : Model F B U) (c : Settings) (R : A → B → Prop)
    (entered : List T) (known : List U) : Prop :=
  ∀ a b, R a b → M.role c (M.typeOf a) = .ok .ordinary →
    ¬ Barren N c (N.annotationsOn (N.typeOf b)) → (M.typeOf a ∈ entered ↔ N.typeOf b ∈ known)

theorem MatchedLive.congr_left (matched : MatchedLive M N c R entered known)
    (widens : Widens M N c R P) (agree : AgreeLive M c entered more) :
    MatchedLive M N c R more known := by
  intro a b related ordinary live
  have also_live := mt (widens.barren_iff (widens.below a b related ordinary)).1 live
  rw [← agree _ also_live, matched a b related ordinary live]

theorem MatchedLive.congr_right {later : List U} (matched : MatchedLive M N c R entered known)
    (agree : AgreeLive N c known later) : MatchedLive M N c R entered later := by
  intro a b related ordinary live
  rw [matched a b related ordinary live, agree _ live]

theorem MatchedLive.cons (matched : MatchedLive M N c R entered known)
    (widens : Widens M N c R P) (related : R a b) :
    MatchedLive M N c R (M.typeOf a :: entered) (N.typeOf b :: known) := by
  intro a' b' related' ordinary live
  rw [List.mem_cons, List.mem_cons, widens.type a' b' a b related' related,
    matched a' b' related' ordinary live]

/-- Searches that end alike, unless the second comes to an added name that cannot be tested. -/
inductive EndsAlike (M : Model E A T) (N : Model F B U) (c : Settings) (R : A → B → Prop)
    (P : B → Prop) (x : Exploration A T) (y : Exploration B U) : Prop where
  | same (ends : Ends M c R x.answer y.answer) (matched : MatchedLive M N c R x.entered y.entered)
  | fault {b : B} {f : Fault} (added : P b) (faulty : N.role c (N.typeOf b) = .error f)
    (ended : y.answer = some (.error f))

theorem EndsAlike.of_eq {x x' : Exploration A T} {y y' : Exploration B U}
    (alike : EndsAlike M N c R P x y) (answer : x'.answer = x.answer)
    (entered : x'.entered = x.entered) (answer_right : y'.answer = y.answer)
    (entered_right : y'.entered = y.entered) : EndsAlike M N c R P x' y' := by
  cases alike with
  | same ends matched =>
    rw [← answer, ← answer_right] at ends
    rw [← entered, ← entered_right] at matched
    exact .same ends matched
  | fault added faulty ended => exact .fault added faulty (answer_right.trans ended)

/-- With so much room, searches of `l` and of `m` end alike, wherever they have come to. -/
def AlwaysAlike (M : Model E A T) (N : Model F B U) (c : Settings) (R : A → B → Prop)
    (P : B → Prop) (room : Nat) (l : List A) (m : List B) : Prop :=
  ∀ entered known warned late, MatchedLive M N c R entered known →
    ∃ x y, Explores M c room entered warned l x ∧ Explores N c room known late m y ∧
      EndsAlike M N c R P x y

variable [DecidableEq T] [DecidableEq U]

theorem AlwaysAlike.pad (alike : AlwaysAlike M N c R P room l m) (widens : Widens M N c R P)
    (added : P b) : AlwaysAlike M N c R P room l (b :: m) := by
  intro entered known warned late matched
  rcases (widens.barren b added).dead_or_fault with dead | ⟨f, faulty⟩
  · obtain ⟨more, later, agree, pass⟩ := dead.exists_pass room known late m
    obtain ⟨x, y, first, second, ends⟩ :=
      alike entered more warned later (matched.congr_right agree)
    obtain ⟨z, passed, answer, same⟩ := pass y second
    exact ⟨x, z, first, passed, ends.of_eq rfl rfl answer same⟩
  · exact ⟨_, _, explores M c room entered warned l, .fault faulty, .fault added faulty rfl⟩

theorem AlwaysAlike.keep_dead (alike : AlwaysAlike M N c R P room l m)
    (widens : Widens M N c R P) (dead : Dead M c a) (dead_right : Dead N c b) :
    AlwaysAlike M N c R P room (a :: l) (b :: m) := by
  intro entered known warned late matched
  obtain ⟨more, later, agree, pass⟩ := dead.exists_pass room entered warned l
  obtain ⟨more', later', agree', pass'⟩ := dead_right.exists_pass room known late m
  obtain ⟨x, y, first, second, ends⟩ :=
    alike more more' later later' ((matched.congr_left widens agree).congr_right agree')
  obtain ⟨z, passed, answer, same⟩ := pass x first
  obtain ⟨z', passed', answer', same'⟩ := pass' y second
  exact ⟨z, z', passed, passed', ends.of_eq answer same answer' same'⟩

omit [DecidableEq U] in
/-- A live type is entered in both searches or in neither, with the same room left. -/
theorem AlwaysAlike.keep_live (alike : AlwaysAlike M N c R P room l m)
    (widens : Widens M N c R P) (related : R a b)
    (ordinary : M.role c (M.typeOf a) = .ok .ordinary)
    (live : ¬ Barren N c (N.annotationsOn (N.typeOf b)))
    (below : ∀ less, room = less + 1 → AlwaysAlike M N c R P less
      (M.annotationsOn (M.typeOf a)) (N.annotationsOn (N.typeOf b))) :
    AlwaysAlike M N c R P room (a :: l) (b :: m) := by
  intro entered known warned late matched
  have ordinary_right := (widens.role related).trans ordinary
  have seen_iff := matched a b related ordinary live
  by_cases seen : M.typeOf a ∈ entered
  · obtain ⟨x, y, first, second, ends⟩ := alike entered known warned late matched
    exact ⟨_, _, .revisited ordinary seen first,
      .revisited ordinary_right (seen_iff.1 seen) second, ends.of_eq rfl rfl rfl rfl⟩
  · have fresh_right := mt seen_iff.2 seen
    cases room with
    | zero =>
      obtain ⟨x, y, first, second, ends⟩ := alike entered known true true matched
      exact ⟨_, _, .abandoned ordinary seen first, .abandoned ordinary_right fresh_right second,
        ends.of_eq rfl rfl rfl rfl⟩
    | succ room =>
      obtain ⟨x, y, first, second, inner⟩ := below room rfl (M.typeOf a :: entered)
        (N.typeOf b :: known) warned late (matched.cons widens related)
      cases inner with
      | fault added faulty ended =>
        have answered : y.answer.isSome := by rw [ended, Option.isSome_some]
        exact ⟨_, _, explores M c (room + 1) entered warned (a :: l),
          .answered ordinary_right fresh_right second answered, .fault added faulty ended⟩
      | same ends matched_below =>
        cases answer : x.answer with
        | some r =>
          have answered : x.answer.isSome := by rw [answer, Option.isSome_some]
          exact ⟨_, _, .answered ordinary seen first answered,
            .answered ordinary_right fresh_right second (ends.isSome answered),
            .same ends matched_below⟩
        | none =>
          obtain ⟨x', y', first', second', later⟩ :=
            alike x.entered y.entered x.warned y.warned matched_below
          exact ⟨_, _, .returned ordinary seen first answer first',
            .returned ordinary_right fresh_right second (ends.eq_none answer) second',
            later.of_eq rfl rfl rfl rfl⟩

/-- **Barren annotations change no answer.** By induction on the room, since the search of a
type has less, and on the lists within it. -/
theorem Widens.alwaysAlike (widens : Widens M N c R P) (room : Nat) (padded : Padded R P l m) :
    AlwaysAlike M N c R P room l m := by
  induction room using Nat.strongRecOn generalizing l m with
  | _ room deeper =>
  induction padded with
  | nil =>
    intro entered known warned late matched
    exact ⟨_, _, .nothing _ _ _, .nothing _ _ _, .same .nothing matched⟩
  | pad added _ ih => exact ih.pad widens added
  | @keep a b l m related _ ih =>
    have role := widens.role related
    rcases Settings.role_cases c (M.name (M.typeOf a)) with metadata | ⟨reserved, -⟩ |
      ⟨ordinary, -⟩ | ⟨f, faulty, -⟩
    · intro entered known warned late matched
      exact ⟨_, _, .metadata metadata, .metadata (role.trans metadata),
        .same (.found related metadata) matched⟩
    · exact ih.keep_dead widens (.inl reserved) (.inl (role.trans reserved))
    · have below := widens.below a b related ordinary
      by_cases barren : Barren N c (N.annotationsOn (N.typeOf b))
      · exact ih.keep_dead widens (.inr ⟨ordinary, (widens.barren_iff below).2 barren⟩)
          (.inr ⟨role.trans ordinary, barren⟩)
      · refine ih.keep_live widens related ordinary barren ?_
        rintro less rfl
        exact deeper less (Nat.lt_succ_self less) below
    · intro entered known warned late matched
      exact ⟨_, _, .fault faulty, .fault (role.trans faulty), .same (.fault f) matched⟩

/-- From entities of which one lists barren annotations besides, the searches end alike, or
the second comes to an added name that cannot be tested. -/
theorem Widens.run (widens : Widens M N c R P) {e : E} {f : F}
    (padded : Padded R P (M.annotations e) (N.annotations f)) :
    EndsAlike M N c R P (run M c (start M e)) (run N c (start N f)) := by
  have nothing : MatchedLive M N c R [] [] := by simp [MatchedLive]
  obtain ⟨x, y, first, second, ends⟩ :=
    widens.alwaysAlike c.depth.levels padded [] [] false false nothing
  rw [run_eq_of_explores first, run_eq_of_explores second]
  exact ends

end Search

end Hallmark
