/-
# Hallmark.Proofs.Search.Trail -- the trail to what is found

What a search finds stands at the end of a trail: pairwise distinct ordinary types, no
more than the depth limit allows, each of them listed where the one before it leads, the
last one listing the metadata annotation that is found.  The search reports one find, as
its last event, and the depth in that report is the length of the trail; whether the limit
was reported before plays no part (`trail_of_found`).

The induction follows the recursion.  It carries that no type of the trail was entered
before, which keeps the types distinct when one is put in front, and that the trail fits
into the room that is left, from which the depth in the report is reckoned.
-/
import Hallmark.Proofs.Search.DepthLimit

namespace Hallmark.Search

set_option autoImplicit false

open Document

variable {E A T : Type} {M : Model E A T} {c : Settings} {room : Nat} {entered more ts : List T}
  {warned : Bool} {l : List A} {a b : A} {x : Exploration A T} {events : List Event}

/-! ## Chains -/

theorem Chain.mono {larger : List A} (chain : Chain M c l ts a) (part : l ⊆ larger) :
    Chain M c larger ts a := by
  cases chain with
  | here member metadata => exact .here (part member) metadata
  | through member ordinary below => exact .through (part member) ordinary below

theorem Chain.metadata (chain : Chain M c l ts a) : M.role c (M.typeOf a) = .ok .metadata := by
  induction chain with
  | here _ metadata => exact metadata
  | through _ _ _ ih => exact ih

theorem Chain.ordinary (chain : Chain M c l ts a) :
    ∀ t ∈ ts, M.role c t = .ok .ordinary := by
  induction chain with
  | here => exact fun t member => absurd member List.not_mem_nil
  | through _ ordinary _ ih => exact List.forall_mem_cons.2 ⟨ordinary, ih⟩

/-- A chain of distinct types that are not entered yet, for which there is room. -/
structure Trail (M : Model E A T) (c : Settings) (room : Nat) (entered : List T) (l : List A)
    (ts : List T) (a : A) : Prop where
  chain : Chain M c l ts a
  distinct : ts.Nodup
  outside : ∀ t ∈ ts, t ∉ entered
  fits : ts.length ≤ room

theorem Trail.here (member : a ∈ l) (metadata : M.role c (M.typeOf a) = .ok .metadata) :
    Trail M c room entered l [] a where
  chain := .here member metadata
  distinct := List.nodup_nil
  outside := fun _ none_ => absurd none_ List.not_mem_nil
  fits := Nat.zero_le room

/-- What an exploration has entered before it comes to a trail is outside of it. -/
theorem Trail.later (trail : Trail M c room more l ts a) (grown : ∀ t ∈ entered, t ∈ more) :
    Trail M c room entered (b :: l) ts a where
  chain := trail.chain.mono (List.subset_cons_self b l)
  distinct := trail.distinct
  outside := fun t member known => trail.outside t member (grown t known)
  fits := trail.fits

theorem Trail.through (trail : Trail M c room (M.typeOf b :: entered) (M.annotationsOn (M.typeOf b)) ts a)
    (member : b ∈ l) (ordinary : M.role c (M.typeOf b) = .ok .ordinary)
    (fresh : M.typeOf b ∉ entered) : Trail M c (room + 1) entered l (M.typeOf b :: ts) a where
  chain := .through member ordinary trail.chain
  distinct := by
    refine List.nodup_cons.2 ⟨fun again => ?_, trail.distinct⟩
    exact trail.outside _ again List.mem_cons_self
  outside := by
    refine List.forall_mem_cons.2 ⟨fresh, fun t inner known => ?_⟩
    exact trail.outside t inner (List.mem_cons_of_mem _ known)
  fits := Nat.succ_le_succ trail.fits

/-! ## The report of what is found -/

/-- Nothing is reported as found. -/
def NoFind (events : List Event) : Prop := ∀ type depth, Event.found type depth ∉ events

/-- The last event, and no other, reports that metadata was found, on a type at a depth. -/
def EndsWithFind (events : List Event) (type : String) (depth : Nat) : Prop :=
  ∃ before, events = before ++ [.found type depth] ∧ NoFind before

theorem NoFind.append (first : NoFind events) {others : List Event} (second : NoFind others) :
    NoFind (events ++ others) := by
  intro type depth member
  rcases List.mem_append.1 member with early | late
  · exact first type depth early
  · exact second type depth late

theorem noFind_abandoned (warned : Bool) (limit : Value) (type : String) :
    NoFind (if warned then [] else [.abandoned limit type]) := by
  intro type depth member
  cases warned <;> simp at member

theorem noFind_revisited (type : String) : NoFind [.revisited type] := by
  intro type depth member
  simp at member

theorem EndsWithFind.after {type : String} {depth : Nat} {others : List Event}
    (ends : EndsWithFind others type depth) (silent : NoFind events) :
    EndsWithFind (events ++ others) type depth := by
  obtain ⟨before, rfl, quiet⟩ := ends
  refine ⟨events ++ before, ?_, silent.append quiet⟩
  rw [List.append_assoc]

/-- An exploration without an answer reports no find. -/
theorem Explores.noFind (explored : Explores M c room entered warned l x)
    (open_ : x.answer = none) : NoFind x.events := by
  induction explored with
  | nothing => exact fun type depth member => absurd member List.not_mem_nil
  | fault => cases open_
  | metadata => cases open_
  | reserved _ _ ih => exact ih open_
  | revisited _ _ _ ih => exact (noFind_revisited _).append (ih open_)
  | abandoned _ _ _ ih => exact (noFind_abandoned _ _ _).append (ih open_)
  | answered _ _ _ answered _ => simp [open_] at answered
  | returned _ _ _ nothing_below _ ih_below ih_later =>
    exact (ih_below nothing_below).append (ih_later open_)

/-- To the annotation that an exploration ends with leads a trail, whose length is how much
deeper the reported depth is than the one at which the exploration began. -/
theorem Explores.trail (explored : Explores M c room entered warned l x)
    (bounded : room ≤ c.depth.levels) (found : x.answer = some (.ok a)) :
    ∃ ts, Trail M c room entered l ts a ∧
      EndsWithFind x.events (M.name (M.typeOf a)) (c.depth.levels - room + ts.length) := by
  induction explored with
  | nothing => cases found
  | fault => cases found
  | metadata metadata =>
    cases found
    refine ⟨[], .here List.mem_cons_self metadata, [], rfl, ?_⟩
    exact fun type depth member => absurd member List.not_mem_nil
  | reserved _ _ ih =>
    obtain ⟨ts, trail, ends⟩ := ih bounded found
    exact ⟨ts, trail.later fun t known => known, ends⟩
  | revisited _ _ _ ih =>
    obtain ⟨ts, trail, ends⟩ := ih bounded found
    exact ⟨ts, trail.later fun t known => known, ends.after (noFind_revisited _)⟩
  | abandoned _ _ _ ih =>
    obtain ⟨ts, trail, ends⟩ := ih bounded found
    exact ⟨ts, trail.later fun t known => known, ends.after (noFind_abandoned _ _ _)⟩
  | @answered room _ _ b _ _ ordinary fresh _ _ ih =>
    obtain ⟨ts, trail, ends⟩ := ih (Nat.le_of_succ_le bounded) found
    have depth : c.depth.levels - (room + 1) + (M.typeOf b :: ts).length
        = c.depth.levels - room + ts.length := by
      simp only [List.length_cons]
      omega
    refine ⟨M.typeOf b :: ts, trail.through List.mem_cons_self ordinary fresh, ?_⟩
    rw [depth]
    exact ends
  | returned _ _ below nothing_below _ _ ih_later =>
    obtain ⟨ts, trail, ends⟩ := ih_later bounded found
    have grown := fun t known => below.entered_grows t (List.mem_cons_of_mem _ known)
    exact ⟨ts, trail.later grown, ends.after (below.noFind nothing_below)⟩

/-! ## Whole searches -/

variable [DecidableEq T]

/-- **What a search finds stands at the end of a trail.** Its types are distinct, neither
reserved nor the metadata type, and no more than the limit allows; and the search ends by
reporting the find with their number as the depth. -/
theorem trail_of_found (M : Model E A T) (c : Settings) (e : E) {a : A}
    (found : (find M c e).answer = .ok (some a)) :
    c.metadataType = .text (M.name (M.typeOf a)) ∧
    ∃ ts, Chain M c (M.annotations e) ts a ∧ ts.Nodup ∧ ts.length ≤ c.depth.levels ∧
      (∀ t ∈ ts, c.isReserved (M.name t) = .ok false ∧ c.metadataType ≠ .text (M.name t)) ∧
      EndsWithFind (find M c e).events (M.name (M.typeOf a)) ts.length := by
  have answer := Exploration.answer_of_result (r := .ok a) found
  obtain ⟨ts, trail, ends⟩ := (explores_run M c e).trail (Nat.le_refl _) answer
  refine ⟨Settings.role_eq_metadata_iff.1 trail.chain.metadata, ts, trail.chain, trail.distinct,
    trail.fits, fun t member => ?_, ?_⟩
  · have ordinary := trail.chain.ordinary t member
    exact ⟨Settings.isReserved_of_ordinary ordinary, Settings.metadataType_ne_of_ordinary ordinary⟩
  · rw [Nat.sub_self, Nat.zero_add] at ends
    exact ends

/-! ## A find at the limit -/

namespace Limit

/-- With a limit of two, `t.Y` is abandoned on the way through `t.A` and `t.X`, and the
metadata of `t.C` is just within reach through `t.B`. -/
def graph : Graph where
  entities := [(.text "e", [⟨"t.A", []⟩, ⟨"t.B", []⟩])]
  types := [(.text "t.A", [⟨"t.X", []⟩]), (.text "t.X", [⟨"t.Y", []⟩]),
    (.text "t.B", [⟨"t.A", []⟩, ⟨"t.C", []⟩]),
    (.text "t.C", [⟨Settings.defaultMetadataType, [(.text "kind", .text "Deep")]⟩])]
  defaults := []

def settings : Settings := { Settings.default with depth := ⟨2, .whole 2, Nat.le_succ 1⟩ }

def entity : Graph.Target := .entity (.text "e")

def deep : graph.Listed :=
  ⟨⟨Settings.defaultMetadataType, [(.text "kind", .text "Deep")]⟩, by decide⟩

theorem find_eq : find graph.model settings entity
    = ⟨[.abandoned (.whole 2) "t.Y", .revisited "t.A", .found Settings.defaultMetadataType 2],
      .ok (some deep)⟩ := by
  rw [find, run_eq_of_explores (c := settings) (e := entity)
    (.returned rfl (by decide)
      (.returned rfl (by decide) (.abandoned rfl (by decide) (.nothing 0 _ _)) rfl (.nothing 1 _ _))
      rfl
      (.answered rfl (by decide)
        (.revisited rfl (by decide) (.answered rfl (by decide) (.metadata rfl) rfl)) rfl))]
  rfl

/-- The limit is reported and then exhausted: the trail has two types. -/
theorem trail_at_limit :
    (find graph.model settings entity).answer = .ok (some deep) ∧
      ∃ ts, Chain graph.model settings (graph.model.annotations entity) ts deep ∧ ts.Nodup ∧
        ts.length ≤ 2 ∧
        EndsWithFind [.abandoned (.whole 2) "t.Y", .revisited "t.A",
          .found Settings.defaultMetadataType 2] Settings.defaultMetadataType ts.length := by
  have found : (find graph.model settings entity).answer = .ok (some deep) := by rw [find_eq]
  obtain ⟨-, ts, chain, distinct, fits, -, ends⟩ := trail_of_found graph.model settings entity found
  rw [find_eq] at ends
  exact ⟨found, ts, chain, distinct, fits, ends⟩

end Limit

end Hallmark.Search
