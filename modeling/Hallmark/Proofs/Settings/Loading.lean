/-
# Hallmark.Proofs.Settings.Loading -- how loading settings from a file ends

A file that can be read, by whichever loader, holds the entries of a mapping, or none if its
document is empty.  Where the entries are sound the environment has the last word, and all that
it can do is name a limit that is none, which is refused: a number that could be read can also be
told.

The settings that come of it have a limit that is one.  Their prefixes are those of the file
unless the environment names others, and not every name can be tested against those of a file
(`ofFile_ends`).
-/
import Hallmark.Proofs.Settings.Entries
import Hallmark.Proofs.Settings.Prefixes
import Hallmark.Proofs.Text.Whole
import Hallmark.Proofs.Yaml.File

namespace Hallmark

set_option autoImplicit false

open Document

namespace Settings

/-! ## The environment -/

/-- The environment names no depth limit, or one that is. -/
def LimitSet (env : Environment) : Prop :=
  ∀ written, env.get? depthVariable = some written →
    ∃ n, Text.readWhole? 10 written.toList = some n ∧ 1 ≤ n

/-- A number that was read can be written, so that none is refused with a fault. -/
theorem depthOfText_ends (written : String) : EndsAs (depthOfText written)
    (∃ n, Text.readWhole? 10 written.toList = some n ∧ 1 ≤ n)
    (¬ ∃ n, Text.readWhole? 10 written.toList = some n ∧ 1 ≤ n) False := by
  unfold depthOfText
  cases read : Text.readWhole? 10 written.toList with
  | none => exact endsAs_refused.congr (by simp) (by simp) .rfl
  | some n =>
    have writable := Value.isWritable_of_readWhole? read
    have limit_iff : IsLimit (.whole n) ↔ 1 ≤ n :=
      ⟨fun (.whole positive) => positive, .whole⟩
    refine (depthOf_ends (.whole n)).congr ?_ ?_ ?_
    · simp [limit_iff]
    · simp [limit_iff, writable]
    · simp [writable]

/-- The limit that the environment names, or else the one that there is. -/
def depthIn (s : Settings) (env : Environment) : Except (Failure SettingsError) DepthLimit :=
  match env.get? depthVariable with
  | some written => depthOfText written
  | none => pure s.depth

theorem override_eq (s : Settings) (env : Environment) : s.override env = (do
    let depth ← s.depthIn env
    return {
      metadataType := ((env.get? typeVariable).map .text).getD s.metadataType
      reserved := ((env.get? prefixesVariable).map prefixesOfText).getD s.reserved
      depth := depth
      logLevel := ((env.get? levelVariable).map Text.upper).getD s.logLevel }) := by
  unfold override depthIn
  cases env.get? depthVariable <;> rfl

theorem depthIn_ends (s : Settings) (env : Environment) :
    EndsAs (s.depthIn env) (LimitSet env) (¬ LimitSet env) False := by
  unfold depthIn LimitSet
  cases env.get? depthVariable with
  | none => exact endsAs_ok.congr (by simp) (by simp) .rfl
  | some written => exact (depthOfText_ends written).congr (by simp) (by simp) .rfl

theorem override_ends (s : Settings) (env : Environment) :
    EndsAs (s.override env) (LimitSet env) (¬ LimitSet env) False := by
  rw [override_eq]
  exact ((depthIn_ends s env).bind fun _ _ => endsAs_ok).congr (by simp) (by simp) (by simp)

/-! ## Files -/

/-- The entries of a document; an empty document has none. -/
def entriesOf? : Value → Option (Dictionary Value Value)
  | .none => some []
  | v => v.entries?

/-- The settings that entries come to below an environment. -/
def ofEntries (given : Dictionary Value Value) (env : Environment) :
    Except (Failure SettingsError) Settings :=
  ofMapping given >>= (·.override env)

theorem ofEntries_ends (given : Dictionary Value Value) (env : Environment) :
    EndsAs (ofEntries given env) (Sound given ∧ LimitSet env)
      (Refused given ∨ Sound given ∧ ¬ LimitSet env) (Faulty given) :=
  ((ofMapping_ends given).bind fun s _ => override_ends s env).congr .rfl .rfl (by simp)

theorem ofFile_eq (files : Files) (env : Environment) (name : String) :
    ofFile files env name = (do
      let document ← (Yaml.readFile files (Path.ofText name)).mapError fun
        | .unreadable cause => .refused (.unreadable (Path.ofText name) cause)
        | .malformed => .refused (.malformed (Path.ofText name))
        | .fault f => .fault f
      match entriesOf? document with
      | some given => ofEntries given env
      | none => .error (.refused (.notMapping (Path.ofText name)))) := by
  unfold ofFile
  dsimp only
  refine congrArg (_ >>= ·) (funext fun document => ?_)
  cases document
  all_goals rfl

/-- A file can be read, and it holds some entries. -/
def Holds (files : Files) (name : String) (given : Dictionary Value Value) : Prop :=
  ∃ v, Yaml.Gives files (Path.ofText name) (.ok v) ∧ entriesOf? v = some given

/-- Prefixes that every name can be tested against. -/
def Tested (v : Value) : Prop := ∃ items, v.items? = some items ∧ Testable items

/-! ## What is loaded -/

section Loaded

variable {given : Dictionary Value Value} {env : Environment} {s base : Settings}

theorem faithful_of_depthOfText {written : String} {depth : DepthLimit}
    (limited : depthOfText written = .ok depth) : depth.Faithful := by
  unfold depthOfText at limited
  split at limited
  · cases limited
  · exact faithful_of_depthOf limited

/-- Of the entries, the prefixes are kept and the limit is one. -/
theorem loaded_of_ofFields (loaded : ofFields given = .ok s) :
    s.depth.Faithful ∧
      ((given.get? (.text "reserved_prefixes") = none ∧ default.reserved = s.reserved) ∨
        HasField given "reserved_prefixes" (prefixesOf · = .ok s.reserved)) := by
  simp only [ofFields_eq, bind_eq_ok_iff, fieldOr_eq_ok_iff, mapError_eq_ok_iff] at loaded
  obtain ⟨reserved, prefixes, depth, limited, level, -, same⟩ := loaded
  cases same
  refine ⟨?_, prefixes⟩
  obtain ⟨-, rfl⟩ | ⟨v, -, limited⟩ := limited
  · exact faithful_default
  · exact faithful_of_depthOf limited

theorem faithful_of_override (faithful : base.depth.Faithful)
    (loaded : base.override env = .ok s) : s.depth.Faithful := by
  simp only [override_eq, bind_eq_ok_iff] at loaded
  obtain ⟨depth, limited, same⟩ := loaded
  cases same
  unfold depthIn at limited
  split at limited
  · exact faithful_of_depthOfText limited
  · cases limited
    exact faithful

theorem reserved_of_override (loaded : base.override env = .ok s) :
    s.reserved = ((env.get? prefixesVariable).map prefixesOfText).getD base.reserved := by
  simp only [override_eq, bind_eq_ok_iff] at loaded
  obtain ⟨depth, -, same⟩ := loaded
  cases same
  rfl

theorem testable_prefixesOfText (written : String) : Testable (prefixesOfText written) := by
  refine testable_of_texts fun v member => ?_
  obtain ⟨piece, -, rfl⟩ := List.mem_map.1 member
  exact ⟨_, rfl⟩

/-- A lone text can be tested, be it one prefix or the characters of a text. -/
theorem tested_iff {v : Value} {prefixes : List Value} (walked : prefixesOf v = .ok prefixes) :
    Tested v ↔ Testable prefixes := by
  unfold prefixesOf at walked
  split at walked
  · rename_i s
    cases walked
    have one : Testable [.text s] := testable_of_texts (by simp)
    have characters : Tested (.text s) := ⟨_, rfl, testable_of_texts (by simp)⟩
    exact iff_of_true characters one
  · unfold Value.items at walked
    split at walked
    · rename_i items held
      cases walked
      simp [Tested, held]
    · cases walked

/-- The prefixes of entries can be tested if the settings read from them can be. -/
theorem fieldIs_tested_iff (loaded : ofFields given = .ok s) :
    FieldIs given "reserved_prefixes" Tested ↔ Testable s.reserved := by
  obtain ⟨-, ⟨left, kept⟩ | ⟨v, found, walked⟩⟩ := loaded_of_ofFields loaded
  · rw [← kept]
    simp [FieldIs, left, default, testable_of_texts]
  · simp [FieldIs, found, tested_iff walked]

theorem known_of_ofMapping (loaded : ofMapping given = .ok s) : Known given :=
  ((ofMapping_ends given).returns_iff.1 ⟨s, loaded⟩).known

theorem loaded_of_ofEntries (loaded : ofEntries given env = .ok s) : s.depth.Faithful ∧
    (Testable s.reserved ↔
      (env.get? prefixesVariable = none → FieldIs given "reserved_prefixes" Tested)) := by
  obtain ⟨base, mapped, overridden⟩ := bind_eq_ok_iff.1 loaded
  rw [ofMapping_of_known (known_of_ofMapping mapped)] at mapped
  refine ⟨faithful_of_override (loaded_of_ofFields mapped).1 overridden, ?_⟩
  rw [reserved_of_override overridden, fieldIs_tested_iff mapped]
  cases env.get? prefixesVariable with
  | none => simp
  | some written => simp [testable_prefixesOfText]

end Loaded

/-! ## How loading ends -/

section Ends

variable {files : Files} {env : Environment} {name : String} {given : Dictionary Value Value}

theorem ofFile_of_holds (holds : Holds files name given) :
    ofFile files env name = ofEntries given env := by
  obtain ⟨v, gives, held⟩ := holds
  rw [ofFile_eq, gives.eq]
  change (match entriesOf? v with
    | some given => ofEntries given env
    | none => _) = _
  rw [held]

theorem exists_holds {s : Settings} (loaded : ofFile files env name = .ok s) :
    ∃ given, Holds files name given := by
  simp only [ofFile_eq, bind_eq_ok_iff, mapError_eq_ok_iff, ← Yaml.gives_iff] at loaded
  obtain ⟨v, gives, loaded⟩ := loaded
  cases held : entriesOf? v with
  | none => simp [held] at loaded
  | some given => exact ⟨given, v, gives, held⟩

theorem Holds.unique {other : Dictionary Value Value} (holds : Holds files name given)
    (again : Holds files name other) : other = given := by
  obtain ⟨v, gives, held⟩ := holds
  obtain ⟨w, gives', held'⟩ := again
  cases gives.eq.symm.trans gives'.eq
  cases held.symm.trans held'
  rfl

/-- **How loading from a file ends.** It ends with settings, with a refusal or with a fault.  The
limit of the settings is one, and every name can be tested against their prefixes unless these
are the file's and such that it cannot. -/
theorem ofFile_ends (files : Files) (env : Environment) (name : String) :
    EndsAs (ofFile files env name)
      (∃ given, Holds files name given ∧ Sound given ∧ LimitSet env)
      ((∃ cause, Yaml.Gives files (Path.ofText name) (.error (.unreadable cause))) ∨
        Yaml.Gives files (Path.ofText name) (.error .malformed) ∨
        (∃ v, Yaml.Gives files (Path.ofText name) (.ok v) ∧ entriesOf? v = none) ∨
        ∃ given, Holds files name given ∧ (Refused given ∨ Sound given ∧ ¬ LimitSet env))
      ((∃ f, Yaml.Gives files (Path.ofText name) (.error (.fault f))) ∨
        ∃ given, Holds files name given ∧ Faulty given) ∧
    ∀ {s}, ofFile files env name = .ok s → s.depth.Faithful ∧
      ((∀ other, Returns (s.isReserved other)) ↔ (env.get? prefixesVariable = none →
        ∀ given, Holds files name given → FieldIs given "reserved_prefixes" Tested)) := by
  constructor
  · simp only [Holds, Yaml.gives_iff, ofFile_eq]
    rcases Yaml.readFile files (Path.ofText name) with (cause | _ | f) | v
    · exact endsAs_refused.congr (by simp) (by simp) (by simp)
    · exact endsAs_refused.congr (by simp) (by simp) (by simp)
    · exact endsAs_fault.congr (by simp) (by simp) (by simp)
    · change EndsAs (match entriesOf? v with
        | some given => ofEntries given env
        | none => _) _ _ _
      cases held : entriesOf? v with
      | none => exact endsAs_refused.congr (by simp [held]) (by simp [held]) (by simp [held])
      | some given =>
        exact (ofEntries_ends given env).congr (by simp [held]) (by simp [held]) (by simp [held])
  · intro s loaded
    obtain ⟨given, holds⟩ := exists_holds loaded
    rw [ofFile_of_holds holds] at loaded
    obtain ⟨faithful, tested⟩ := loaded_of_ofEntries loaded
    refine ⟨faithful, (returns_isReservedBy_iff s.reserved).trans (tested.trans ?_)⟩
    refine imp_congr_right fun _ => ⟨fun sound other again => ?_, fun sound => sound given holds⟩
    rw [holds.unique again]
    exact sound

end Ends

/-! A file with an octet that no text begins with, one with a key that is no text, one whose
prefixes are a number, and one with a number among its prefixes. -/

namespace Unfit

def files : Files where
  storage := .ofEntries [
    ("octet.yaml", .file [0xff]),
    ("key.yaml", .file "1: x".toUTF8.toList),
    ("number.yaml", .file "reserved_prefixes: 5".toUTF8.toList),
    ("items.yaml", .file "reserved_prefixes: [1]".toUTF8.toList)]
  loader := Yaml.loader .asGiven

theorem ofFile_escapes : Faults (ofFile files [] "octet.yaml") ∧
    Faults (ofFile files [] "key.yaml") ∧ Faults (ofFile files [] "number.yaml") ∧
    ∃ s, ofFile files [] "items.yaml" = .ok s ∧ ¬ Returns (s.isReserved "app.Tag") := by
  decide +kernel

end Unfit

end Settings

end Hallmark
