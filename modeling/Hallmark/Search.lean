/-
# Hallmark.Search -- the nearest metadata

A search looks through the annotations of an entity and, depth first, through those on
the declarations of their types, for an annotation of the metadata type.  Types with
reserved names are never entered, each type is entered at most once, and no more types
lie on a path than the depth limit allows.

`State` holds what is still to be looked at, one list of annotations per level with the
deepest first; `step` looks at the next annotation, and `run` repeats it until there is
an answer.  Every step either enters one of the finitely many types or leaves fewer
annotations to look at (`step_decreases`), so a search always ends.
-/
import Hallmark.Model
import Hallmark.Settings

namespace Hallmark

set_option autoImplicit false

open Document

/-- What a search does with the annotations of a type. -/
inductive Role where
  | metadata
  | reserved
  | ordinary
deriving DecidableEq, Repr

def Settings.role (s : Settings) (name : String) : Except Fault Role :=
  if s.metadataType == Value.text name then .ok .metadata
  else (fun reserved => if reserved then .reserved else .ordinary) <$> s.isReserved name

namespace Search

variable {E A T : Type}

structure State (A T : Type) where
  levels : List (List A)
  entered : List T
  warned : Bool

/-- The answer of a step that stops is absent if nothing is left to look at. -/
inductive Step (A T : Type) where
  | resume (events : List Event) (next : State A T)
  | stop (events : List Event) (answer : Option (Except Fault A))

/-- How far a search has come: what it reported, which types it entered, the last one
first, whether it reported the depth limit, and its answer if it stopped for one. -/
structure Exploration (A T : Type) where
  events : List Event
  entered : List T
  warned : Bool
  answer : Option (Except Fault A)

/-- An exploration that found nothing answers with nothing. -/
def Exploration.result (x : Exploration A T) : Traced Fault (Option A) :=
  ⟨x.events,
    match x.answer with
    | none => .ok none
    | some answer => some <$> answer⟩

variable [DecidableEq T]

omit [DecidableEq T] in
def start (M : Model E A T) (e : E) : State A T := ⟨[M.annotations e], [], false⟩

def step (M : Model E A T) (c : Settings) (s : State A T) : Step A T :=
  match s.levels with
  | [] => .stop [] none
  | [] :: above => .resume [] { s with levels := above }
  | (a :: rest) :: above =>
    let type := M.typeOf a
    let name := M.name type
    let passed : State A T := { s with levels := rest :: above }
    match c.role name with
    | .error f => .stop [] (some (.error f))
    | .ok .metadata => .stop [.found name above.length] (some (.ok a))
    | .ok .reserved => .resume [] passed
    | .ok .ordinary =>
      if type ∈ s.entered then .resume [.revisited name] passed
      else if c.depth.levels ≤ above.length then
        .resume (if s.warned then [] else [.abandoned c.depth.written name])
          { passed with warned := true }
      else
        .resume []
          { passed with
            levels := M.annotationsOn type :: rest :: above
            entered := type :: s.entered }

/-- The types that have not been entered. -/
def unentered (M : Model E A T) (s : State A T) : List T :=
  M.types.filter fun t => t ∉ s.entered

/-- How many annotations and levels are still to be looked at. -/
def pending (s : State A T) : Nat := s.levels.flatten.length + s.levels.length

theorem unentered_lt (M : Model E A T) {t : T} {entered : List T}
    (known : t ∈ M.types) (fresh : t ∉ entered) :
    (M.types.filter fun u => u ∉ t :: entered).length
      < (M.types.filter fun u => u ∉ entered).length := by
  have split : (M.types.filter fun u => u ∉ t :: entered)
      = (M.types.filter fun u => u ∉ entered).filter (· ≠ t) := by
    rw [List.filter_filter]
    congr 1
    funext u
    simp only [List.mem_cons, not_or, Bool.decide_and]
  rw [split]
  refine List.length_filter_lt_length_iff_exists.2 ⟨t, ?_, by simp⟩
  simpa using ⟨known, fresh⟩

/-- A step that does not stop leaves fewer types to enter, or the same types and less
to look at. -/
theorem step_decreases (M : Model E A T) (c : Settings) {s t : State A T}
    {events : List Event} (moved : step M c s = .resume events t) :
    Prod.Lex (· < ·) (· < ·) ((unentered M t).length, pending t)
      ((unentered M s).length, pending s) := by
  obtain ⟨levels, entered, warned⟩ := s
  match levels with
  | [] => cases moved
  | [] :: above =>
    cases moved
    exact .right _ (by simp [pending])
  | (a :: rest) :: above =>
    simp only [step] at moved
    split at moved
    · cases moved
    · cases moved
    · cases moved
      exact .right _ (by simp [pending])
    · split at moved
      · cases moved
        exact .right _ (by simp [pending])
      · rename_i fresh
        split at moved
        · cases moved
          exact .right _ (by simp [pending])
        · cases moved
          exact .left _ _ (unentered_lt M (M.typeOf_mem a) fresh)

def run (M : Model E A T) (c : Settings) (s : State A T) : Exploration A T :=
  match _moved : step M c s with
  | .stop events answer => ⟨events, s.entered, s.warned, answer⟩
  | .resume events next =>
    let rest := run M c next
    { rest with events := events ++ rest.events }
termination_by ((unentered M s).length, pending s)
decreasing_by exact step_decreases M c ‹_›

/-- The nearest metadata annotation of an entity. -/
def find (M : Model E A T) (c : Settings) (e : E) : Traced Fault (Option A) :=
  (run M c (start M e)).result

end Search

end Hallmark
