/-
# Hallmark.Proofs.Settings.Entries -- which entries come to settings

Entries are gone through in an order of their own: first the keys, then the prefixes, the depth
limit and the log level.  The first defect ends it, and `Sound`, `Refused` and `Faulty` say which
entries come to settings, to a refusal and to a fault (`ofMapping_ends`).

A defect is refused if it can be told.  Unknown keys are joined as texts, so a key that is no
text escapes as a fault; a value that is no limit is written, so one that holds a number too long
escapes as well; and nothing asks whether prefixes can be walked through or a level be written
before it is done.
-/
import Hallmark.Settings
import Mathlib.Logic.Basic

namespace Hallmark

set_option autoImplicit false

open Document

/-! ## Limits -/

inductive IsLimit : Value → Prop where
  | whole {n : Int} (positive : 1 ≤ n) : IsLimit (.whole n)
  | truth : IsLimit (.truth true)

namespace DepthLimit

variable {v : Value}

theorem exists_ofValue?_iff : (∃ depth, ofValue? v = some depth) ↔ IsLimit v := by
  constructor
  · rintro ⟨depth, limited⟩
    unfold ofValue? at limited
    split at limited
    · split at limited
      · rename_i n positive
        exact .whole (by omega)
      · cases limited
    · exact .truth
    · cases limited
  · rintro (positive | _)
    · exact ⟨_, dif_pos (by omega)⟩
    · exact ⟨_, rfl⟩

/-- A limit that is written as what it is. -/
def Faithful (depth : DepthLimit) : Prop :=
  IsLimit depth.written ∧ depth.written.whole? = some depth.levels

theorem faithful_of_ofValue? {depth : DepthLimit} (limited : ofValue? v = some depth) :
    depth.Faithful := by
  unfold ofValue? at limited
  split at limited
  · split at limited
    · rename_i n positive
      cases limited
      exact ⟨.whole (by omega), congrArg some (Int.toNat_of_nonneg (by omega)).symm⟩
    · cases limited
  · cases limited
    exact ⟨.truth, rfl⟩
  · cases limited

end DepthLimit

namespace Settings

theorem depthOf_ends (v : Value) : EndsAs (depthOf v) (IsLimit v)
    (¬ IsLimit v ∧ v.isWritable = true) (¬ IsLimit v ∧ v.isWritable = false) := by
  rw [← DepthLimit.exists_ofValue?_iff]
  unfold depthOf
  split
  · rename_i depth limited
    exact endsAs_ok.congr (by simp [limited]) (by simp [limited]) (by simp [limited])
  · rename_i w unlimited writable
    have := (Value.exists_written_iff v).1 ⟨w, writable⟩
    exact endsAs_refused.congr (by simp [unlimited]) (by simp [unlimited, this])
      (by simp [this])
  · rename_i f unlimited unwritable
    have : v.isWritable = false := by
      rw [← Bool.not_eq_true, ← Value.exists_written_iff]
      simp [unwritable]
    exact endsAs_fault.congr (by simp [unlimited]) (by simp [this])
      (by simp [unlimited, this])

theorem faithful_default : default.depth.Faithful := ⟨.whole (by decide), rfl⟩

theorem faithful_of_depthOf {v : Value} {depth : DepthLimit} (limited : depthOf v = .ok depth) :
    depth.Faithful := by
  unfold depthOf at limited
  split at limited
  · rename_i found
    cases limited
    exact DepthLimit.faithful_of_ofValue? found
  · cases limited
  · cases limited

/-! ## Entries -/

/-- A value that is given under a name, if there is one, is of some sort. -/
def FieldIs (given : Dictionary Value Value) (name : String) (sort : Value → Prop) : Prop :=
  ∀ v, given.get? (.text name) = some v → sort v

/-- A value of some sort is given under a name. -/
def HasField (given : Dictionary Value Value) (name : String) (sort : Value → Prop) : Prop :=
  ∃ v, given.get? (.text name) = some v ∧ sort v

/-- Every key is the name of a field. -/
def Known (given : Dictionary Value Value) : Prop :=
  ∀ key ∈ given.keys, ∃ name ∈ fields, key = .text name

/-- Prefixes that can be walked through. -/
def Walkable (v : Value) : Prop := v.items?.isSome = true

structure Sound (given : Dictionary Value Value) : Prop where
  known : Known given
  prefixes : FieldIs given "reserved_prefixes" Walkable
  depth : FieldIs given "max_depth" IsLimit
  level : FieldIs given "log_level" (·.isWritable = true)

/-- Entries with a defect that is told: keys that are texts, one of them unknown, or a value that
can be written but is no limit. -/
inductive Refused (given : Dictionary Value Value) : Prop where
  | key (unknown : ¬ Known given) (texts : ∀ key ∈ given.keys, ∃ s, key = .text s) : Refused given
  | depth (known : Known given) (prefixes : FieldIs given "reserved_prefixes" Walkable)
    (told : HasField given "max_depth" fun v => ¬ IsLimit v ∧ v.isWritable = true) : Refused given

/-- Entries with a defect that escapes. -/
inductive Faulty (given : Dictionary Value Value) : Prop where
  | key {key : Value} (member : key ∈ given.keys) (untyped : ∀ s, key ≠ .text s) : Faulty given
  | prefixes (known : Known given)
    (unwalkable : HasField given "reserved_prefixes" fun v => ¬ Walkable v) : Faulty given
  | depth (known : Known given) (prefixes : FieldIs given "reserved_prefixes" Walkable)
    (untold : HasField given "max_depth" fun v => ¬ IsLimit v ∧ v.isWritable = false) :
    Faulty given
  | level (known : Known given) (prefixes : FieldIs given "reserved_prefixes" Walkable)
    (depth : FieldIs given "max_depth" IsLimit)
    (unwritable : HasField given "log_level" fun v => v.isWritable = false) : Faulty given

/-- What is given under a name, read, or else a default. -/
def fieldOr {ε α : Type} (given : Dictionary Value Value) (name : String)
    (read : Value → Except ε α) (default : α) : Except ε α :=
  match given.get? (.text name) with
  | some v => read v
  | none => pure default

/-- The three fields that are read, in the order in which they are. -/
theorem ofFields_eq (given : Dictionary Value Value) : ofFields given = (do
    let reserved ← fieldOr given "reserved_prefixes"
      (fun v => (prefixesOf v).mapError .fault) default.reserved
    let depth ← fieldOr given "max_depth" depthOf default.depth
    let logLevel ← fieldOr given "log_level"
      (fun v => Value.display <$> v.written.mapError .fault) default.logLevel
    return {
      metadataType := (given.get? (.text "metadata_type")).getD default.metadataType
      reserved := reserved
      depth := depth
      logLevel := Text.upper logLevel }) := by
  unfold ofFields fieldOr
  dsimp only
  cases given.get? (.text "reserved_prefixes")
  all_goals cases given.get? (.text "max_depth")
  all_goals cases given.get? (.text "log_level")
  all_goals rfl

section Fields

variable {α : Type} {given : Dictionary Value Value} {name : String} {default : α}

theorem fieldOr_ends {read : Value → Except (Failure SettingsError) α}
    {returned refused failed : Value → Prop}
    (ends : ∀ v, EndsAs (read v) (returned v) (refused v) (failed v)) :
    EndsAs (fieldOr given name read default) (FieldIs given name returned)
      (HasField given name refused) (HasField given name failed) := by
  unfold fieldOr FieldIs HasField
  cases given.get? (.text name) with
  | none => exact endsAs_ok.congr (by simp) (by simp) (by simp)
  | some v => exact (ends v).congr (by simp) (by simp) (by simp)

theorem fieldOr_eq_ok_iff {ε : Type} {read : Value → Except ε α} {a : α} :
    fieldOr given name read default = .ok a ↔
      (given.get? (.text name) = none ∧ default = a) ∨ HasField given name (read · = .ok a) := by
  unfold fieldOr HasField
  cases given.get? (.text name) <;> simp [pure, Except.pure]

theorem prefixesOf_ends (v : Value) :
    EndsAs ((prefixesOf v).mapError (Failure.fault (ε := SettingsError))) (Walkable v) False
      (¬ Walkable v) := by
  have returns : Returns (prefixesOf v) ↔ Walkable v := by
    unfold prefixesOf Walkable
    split
    · exact ⟨fun _ => rfl, fun _ => ⟨_, rfl⟩⟩
    · exact Value.returns_items_iff v
  rw [← returns]
  exact endsAs_mapError_fault _

theorem level_ends (v : Value) :
    EndsAs (Value.display <$> v.written.mapError (Failure.fault (ε := SettingsError)))
      (v.isWritable = true) False (v.isWritable = false) := by
  unfold Value.written
  cases v.isWritable with
  | true => exact endsAs_ok.congr (by simp) .rfl (by simp)
  | false => exact endsAs_fault.congr (by simp) .rfl (by simp)

end Fields

section Keys

variable {given : Dictionary Value Value}

theorem isField_iff {v : Value} : isField v = true ↔ ∃ name ∈ fields, v = .text name := by
  simp [isField, List.any_eq_true]

/-- The keys that are no fields. -/
def unknownKeys (given : Dictionary Value Value) : List Value := given.keys.filter (!isField ·)

theorem unknownKeys_eq_nil_iff : unknownKeys given = [] ↔ Known given := by
  simp [unknownKeys, Known, isField_iff, List.filter_eq_nil_iff]

theorem returns_allText_unknownKeys_iff :
    Returns (allText (unknownKeys given)) ↔ ∀ key ∈ given.keys, ∃ s, key = .text s := by
  refine returns_allText_filter_iff fun v known => ?_
  obtain ⟨name, -, named⟩ := isField_iff.1 known
  exact ⟨name, named⟩

theorem ofMapping_of_known (known : Known given) : ofMapping given = ofFields given := by
  have none_unknown : given.keys.filter (!isField ·) = [] := unknownKeys_eq_nil_iff.2 known
  simp [ofMapping, none_unknown]

theorem ofMapping_of_unknown (unknown : ¬ Known given) : ofMapping given = (do
    let names ← (allText (unknownKeys given)).mapError .fault
    .error (.refused (.unknownKeys (sortNames names)))) := by
  have some_unknown : unknownKeys given ≠ [] := mt unknownKeys_eq_nil_iff.1 unknown
  unfold ofMapping
  dsimp only
  rw [if_pos (by simpa [unknownKeys] using some_unknown)]
  rfl

/-- Where every key is known, the fields are read in order. -/
theorem ofFields_ends (known : Known given) :
    EndsAs (ofFields given) (Sound given) (Refused given) (Faulty given) := by
  rw [ofFields_eq]
  -- a step that is never refused, or never fails, leaves a case that cannot be
  refine ((fieldOr_ends prefixesOf_ends).bind fun _ _ => (fieldOr_ends depthOf_ends).bind
    fun _ _ => (fieldOr_ends level_ends).bind fun _ _ => endsAs_ok).congr ?_ ?_ ?_
  · exact ⟨fun ⟨prefixes, depth, level, _⟩ => ⟨known, prefixes, depth, level⟩,
      fun sound => ⟨sound.prefixes, sound.depth, sound.level, trivial⟩⟩
  · constructor
    · rintro (⟨_, _, never⟩ | ⟨prefixes, told | ⟨_, ⟨_, _, never⟩ | ⟨_, never⟩⟩⟩)
      · exact never.elim
      · exact .depth known prefixes told
      · exact never.elim
      · exact never.elim
    · rintro (⟨unknown, -⟩ | ⟨-, prefixes, told⟩)
      · exact absurd known unknown
      · exact .inr ⟨prefixes, .inl told⟩
  · constructor
    · rintro (unwalkable | ⟨prefixes, untold | ⟨depth, unwritable | ⟨_, never⟩⟩⟩)
      · exact .prefixes known unwalkable
      · exact .depth known prefixes untold
      · exact .level known prefixes depth unwritable
      · exact never.elim
    · rintro (⟨member, untyped⟩ | ⟨-, unwalkable⟩ | ⟨-, prefixes, untold⟩ |
        ⟨-, prefixes, depth, unwritable⟩)
      · obtain ⟨name, -, named⟩ := known _ member
        exact absurd named (untyped name)
      · exact .inl unwalkable
      · exact .inr ⟨prefixes, .inl untold⟩
      · exact .inr ⟨prefixes, .inr ⟨depth, .inl unwritable⟩⟩

theorem ofMapping_ends (given : Dictionary Value Value) :
    EndsAs (ofMapping given) (Sound given) (Refused given) (Faulty given) := by
  by_cases known : Known given
  · rw [ofMapping_of_known known]
    exact ofFields_ends known
  · rw [ofMapping_of_unknown known]
    refine ((endsAs_mapError_fault _).bind fun _ _ => endsAs_refused).congr ?_ ?_ ?_
    · exact ⟨fun ⟨_, never⟩ => never.elim, fun sound => absurd sound.known known⟩
    · rw [returns_allText_unknownKeys_iff]
      constructor
      · rintro (never | ⟨texts, -⟩)
        · exact never.elim
        · exact .key known texts
      · rintro (⟨-, texts⟩ | ⟨allKnown, -, -⟩)
        · exact .inr ⟨texts, trivial⟩
        · exact absurd allKnown known
    · rw [returns_allText_unknownKeys_iff]
      constructor
      · rintro (untyped | ⟨-, never⟩)
        · simp only [not_forall, not_exists] at untyped
          obtain ⟨key, member, untyped⟩ := untyped
          exact .key member untyped
        · exact never.elim
      · rintro (⟨member, untyped⟩ | ⟨allKnown, -⟩ | ⟨allKnown, -, -⟩ | ⟨allKnown, -, -, -⟩)
        · exact .inl fun texts => (texts _ member).elim untyped
        all_goals exact absurd allKnown known

end Keys

end Settings

end Hallmark
