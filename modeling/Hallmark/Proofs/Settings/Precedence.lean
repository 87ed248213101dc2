/-
# Hallmark.Proofs.Settings.Precedence -- where each field of the settings comes from

Each of the four fields is settled on its own (`Settles`): by its variable of the environment if
that is set, else by what the entries of the file give for it, else by the default.  What a
variable says is read from a text (`Said`), what a file gives is brought into the form that
settings keep (`Normal`), and the two are read apart from each other.  How the pieces of a list are
trimmed is told by `Text.Trimmed`, and a level is in upper case as far as no small letter of ASCII
is left in it (`not_isSmall_of_settles`).

Settings are loaded from a file exactly if they are what is settled field by field, and if
besides everything that the file gives could be kept, whatever the environment says of it
(`ofFile_eq_ok_iff`).  So no variable has a say in a field but its own, and a file that cannot
be loaded without an environment cannot be loaded in any (`settled_by_field`).
-/
import Hallmark.Proofs.Settings.Loading
import Hallmark.Proofs.Text.Form

namespace Hallmark

set_option autoImplicit false

open Document

namespace Settings

/-! ## Fields -/

inductive Field where
  | metadataType
  | prefixes
  | depth
  | level

namespace Field

/-- The key of a field among entries. -/
def name : Field → String
  | metadataType => "metadata_type"
  | prefixes => "reserved_prefixes"
  | depth => "max_depth"
  | level => "log_level"

def variableName : Field → String
  | metadataType => typeVariable
  | prefixes => prefixesVariable
  | depth => depthVariable
  | level => levelVariable

def of (s : Settings) : Field → Value
  | metadataType => s.metadataType
  | prefixes => .tuple s.reserved
  | depth => s.depth.written
  | level => .text s.logLevel

end Field

/-- What the text of a variable says of its field. -/
inductive Said : Field → String → Value → Prop where
  | metadataType (text : String) : Said .metadataType text (.text text)
  | prefixes {text : String} {pieces kept : List (List Char)} (some : pieces ≠ [])
    (plain : ∀ piece ∈ pieces, ',' ∉ piece) (split : [','].intercalate pieces = text.toList)
    (trimmed : List.Forall₂ Text.Trimmed pieces kept) :
    Said .prefixes text (.tuple ((kept.filter (!·.isEmpty)).map
      fun piece => .text (String.ofList piece)))
  | depth {text : String} {n : Int} (read : Text.readWhole? 10 text.toList = some n)
    (positive : 1 ≤ n) : Said .depth text (.whole n)
  | level (text : String) : Said .level text (.text (Text.upper text))

/-- What is kept of a value that is given for a field. -/
inductive Normal : Field → Value → Value → Prop where
  | metadataType (v : Value) : Normal .metadataType v v
  | lone (s : String) : Normal .prefixes (.text s) (.tuple [.text s])
  | collection {v : Value} {items : List Value} (several : ∀ s, v ≠ .text s)
    (walked : v.items? = some items) : Normal .prefixes v (.tuple items)
  | depth {v : Value} (limit : IsLimit v) : Normal .depth v v
  | level {v : Value} (writable : v.isWritable = true) :
    Normal .level v (.text (Text.upper v.display))

/-- How a field is settled by the environment, the entries of a file, and the default. -/
inductive Settles (env : Environment) (given : Dictionary Value Value) (field : Field) :
    Value → Prop where
  | environment {text : String} {v : Value} (set : env.get? field.variableName = some text)
    (said : Said field text v) : Settles env given field v
  | entry {v w : Value} (unset : env.get? field.variableName = none)
    (found : given.get? (.text field.name) = some v) (normal : Normal field v w) :
    Settles env given field w
  | default (unset : env.get? field.variableName = none)
    (absent : given.get? (.text field.name) = none) : Settles env given field (field.of default)

/-- Entries of which every one can be kept. -/
structure Kept (given : Dictionary Value Value) : Prop where
  known : Known given
  normal : ∀ field v, given.get? (.text (Field.name field)) = some v → ∃ w, Normal field v w

/-! ## No field is settled twice -/

section Unique

variable {env : Environment} {given : Dictionary Value Value} {field : Field} {text : String}
  {v w w' : Value}

theorem Said.unique (said : Said field text w) (again : Said field text w') : w = w' := by
  cases said with
  | metadataType => cases again; rfl
  | level => cases again; rfl
  | depth read _ =>
    cases again with
    | depth read' _ =>
      cases read.symm.trans read'
      rfl
  | prefixes some plain split trimmed =>
    cases again with
    | prefixes some' plain' split' trimmed' =>
      have same := Text.pieces_intercalate some plain
      rw [split, ← split', Text.pieces_intercalate some' plain'] at same
      rw [Text.forall₂_trimmed_iff.1 trimmed, Text.forall₂_trimmed_iff.1 trimmed', same]

theorem Normal.unique (normal : Normal field v w) (again : Normal field v w') : w = w' := by
  cases normal with
  | metadataType => cases again; rfl
  | depth => cases again; rfl
  | level => cases again; rfl
  | lone s =>
    cases again with
    | lone => rfl
    | collection several _ => exact absurd rfl (several s)
  | collection several walked =>
    cases again with
    | lone s => exact absurd rfl (several s)
    | collection _ walked' =>
      cases walked.symm.trans walked'
      rfl

theorem Settles.unique (settled : Settles env given field w) (again : Settles env given field w') :
    w = w' := by
  cases settled with
  | environment set said =>
    cases again with
    | environment set' said' =>
      cases set.symm.trans set'
      exact said.unique said'
    | entry unset => cases set.symm.trans unset
    | default unset => cases set.symm.trans unset
  | entry unset found normal =>
    cases again with
    | environment set => cases set.symm.trans unset
    | entry _ found' normal' =>
      cases found.symm.trans found'
      exact normal.unique normal'
    | default _ absent => cases found.symm.trans absent
  | default unset absent =>
    cases again with
    | environment set => cases set.symm.trans unset
    | entry _ found => cases found.symm.trans absent
    | default => rfl

/-- How a field is settled depends on its own variable alone. -/
theorem Settles.congr {env' : Environment} (settled : Settles env given field w)
    (same : env'.get? field.variableName = env.get? field.variableName) :
    Settles env' given field w := by
  cases settled with
  | environment set said => exact .environment (same.trans set) said
  | entry unset found normal => exact .entry (same.trans unset) found normal
  | default unset absent => exact .default (same.trans unset) absent

/-- Settings are their fields. -/
theorem eq_of_fields {s t : Settings} (faithful : s.depth.Faithful) (faithful' : t.depth.Faithful)
    (same : ∀ field, Field.of s field = Field.of t field) : s = t := by
  obtain ⟨type, reserved, ⟨levels, written, positive⟩, level⟩ := s
  obtain ⟨type', reserved', ⟨levels', written', positive'⟩, level'⟩ := t
  obtain rfl : type = type' := same .metadataType
  obtain rfl : reserved = reserved' := Value.tuple.inj (same .prefixes)
  obtain rfl : written = written' := same .depth
  obtain rfl : level = level' := Value.text.inj (same .level)
  have counts : (levels : Int) = levels' :=
    Option.some.inj (faithful.2.symm.trans faithful'.2)
  obtain rfl : levels = levels' := Int.ofNat.inj counts
  rfl

end Unique

/-! ## What is read -/

section Read

variable {env : Environment} {given : Dictionary Value Value} {s base : Settings} {v : Value}
  {depth : DepthLimit}

theorem written_of_ofValue? (limited : DepthLimit.ofValue? v = some depth) : depth.written = v := by
  unfold DepthLimit.ofValue? at limited
  split at limited
  · split at limited
    · cases limited
      rfl
    · cases limited
  · cases limited
    rfl
  · cases limited

theorem written_of_depthOf (limited : depthOf v = .ok depth) : depth.written = v := by
  unfold depthOf at limited
  split at limited
  · rename_i found
    cases limited
    exact written_of_ofValue? found
  · cases limited
  · cases limited

theorem normal_of_depthOf (limited : depthOf v = .ok depth) : Normal .depth v depth.written := by
  rw [written_of_depthOf limited]
  exact .depth ((depthOf_ends v).returns_iff.1 ⟨depth, limited⟩)

theorem said_of_depthOfText {text : String} (limited : depthOfText text = .ok depth) :
    Said .depth text depth.written := by
  obtain ⟨n, read, positive⟩ := (depthOfText_ends text).returns_iff.1 ⟨depth, limited⟩
  rw [depthOfText, read] at limited
  rw [written_of_depthOf limited]
  exact .depth read positive

theorem said_prefixesOfText (text : String) : Said .prefixes text (.tuple (prefixesOfText text)) :=
  .prefixes (Text.pieces_ne_nil ',' text.toList) (fun _ => Text.not_mem_of_mem_pieces)
    (Text.intercalate_pieces ',' text.toList) (Text.forall₂_trimmed_iff.2 rfl)

theorem normal_of_prefixesOf {reserved : List Value} (walked : prefixesOf v = .ok reserved) :
    Normal .prefixes v (.tuple reserved) := by
  unfold prefixesOf at walked
  split at walked
  · cases walked
    exact .lone _
  · rename_i several
    unfold Value.items at walked
    split at walked
    · rename_i items held
      cases walked
      exact .collection several held
    · cases walked

theorem normal_of_written {w : Value} (written : v.written = .ok w) :
    Normal .level v (.text (Text.upper w.display)) := by
  unfold Value.written at written
  split at written
  · rename_i writable
    cases written
    exact .level writable
  · cases written

/-- Each field of settings that are read from entries is what is given for it, or the default. -/
theorem settles_of_ofFields (loaded : ofFields given = .ok s) (field : Field) :
    Settles [] given field (field.of s) := by
  simp only [ofFields_eq, bind_eq_ok_iff, fieldOr_eq_ok_iff, mapError_eq_ok_iff,
    map_eq_ok_iff] at loaded
  obtain ⟨reserved, prefixes, depth, limited, level, leveled, same⟩ := loaded
  cases same
  cases field with
  | metadataType =>
    cases found : given.get? (.text "metadata_type") with
    | none => exact .default rfl found
    | some v => exact .entry rfl found (.metadataType v)
  | prefixes =>
    obtain ⟨absent, rfl⟩ | ⟨v, found, walked⟩ := prefixes
    · exact .default rfl absent
    · exact .entry rfl found (normal_of_prefixesOf walked)
  | depth =>
    obtain ⟨absent, rfl⟩ | ⟨v, found, limited⟩ := limited
    · exact .default rfl absent
    · exact .entry rfl found (normal_of_depthOf limited)
  | level =>
    obtain ⟨absent, rfl⟩ | ⟨v, found, w, written, rfl⟩ := leveled
    · exact .default rfl absent
    · exact .entry rfl found (normal_of_written written)

/-- What a variable says is what its field becomes. -/
theorem said_of_override {field : Field} {text : String} (loaded : base.override env = .ok s)
    (set : env.get? field.variableName = some text) : Said field text (field.of s) := by
  simp only [override_eq, bind_eq_ok_iff] at loaded
  obtain ⟨depth, limited, same⟩ := loaded
  cases same
  cases field with
  | metadataType =>
    change env.get? typeVariable = some text at set
    simpa [Field.of, set] using Said.metadataType text
  | prefixes =>
    change env.get? prefixesVariable = some text at set
    simpa [Field.of, set] using said_prefixesOfText text
  | depth =>
    change env.get? depthVariable = some text at set
    rw [depthIn, set] at limited
    exact said_of_depthOfText limited
  | level =>
    change env.get? levelVariable = some text at set
    simpa [Field.of, set] using Said.level text

/-- A field whose variable is not set stays as it is. -/
theorem of_override_of_unset {field : Field} (loaded : base.override env = .ok s)
    (unset : env.get? field.variableName = none) : field.of s = field.of base := by
  simp only [override_eq, bind_eq_ok_iff] at loaded
  obtain ⟨depth, limited, same⟩ := loaded
  cases same
  cases field with
  | metadataType =>
    change env.get? typeVariable = none at unset
    simp [Field.of, unset]
  | prefixes =>
    change env.get? prefixesVariable = none at unset
    simp [Field.of, unset]
  | depth =>
    change env.get? depthVariable = none at unset
    rw [depthIn, unset] at limited
    cases limited
    rfl
  | level =>
    change env.get? levelVariable = none at unset
    simp [Field.of, unset]

theorem settles_of_override (below : ∀ field, Settles [] given field (Field.of base field))
    (loaded : base.override env = .ok s) (field : Field) : Settles env given field (field.of s) := by
  cases set : env.get? field.variableName with
  | none =>
    rw [of_override_of_unset loaded set]
    exact (below field).congr set
  | some text => exact .environment set (said_of_override loaded set)

theorem sound_iff_kept : Sound given ↔ Kept given := by
  constructor
  · rintro ⟨known, prefixes, depth, level⟩
    refine ⟨known, fun field v found => ?_⟩
    cases field with
    | metadataType => exact ⟨v, .metadataType v⟩
    | depth => exact ⟨v, .depth (depth v found)⟩
    | level => exact ⟨_, .level (level v found)⟩
    | prefixes =>
      obtain ⟨items, walked⟩ := Option.isSome_iff_exists.1 (prefixes v found)
      by_cases lone : ∃ s, v = .text s
      · obtain ⟨s, rfl⟩ := lone
        exact ⟨_, .lone s⟩
      · exact ⟨_, .collection (not_exists.1 lone) walked⟩
  · rintro ⟨known, normal⟩
    refine ⟨known, fun v found => ?_, fun v found => ?_, fun v found => ?_⟩
    · obtain ⟨w, kept⟩ := normal .prefixes v found
      cases kept with
      | lone s => exact rfl
      | collection several walked => exact Option.isSome_iff_exists.2 ⟨_, walked⟩
    · obtain ⟨w, kept⟩ := normal .depth v found
      cases kept with
      | depth limit => exact limit
    · obtain ⟨w, kept⟩ := normal .level v found
      cases kept with
      | level writable => exact writable

theorem limitSet_of_settles {w : Value} (settled : Settles env given .depth w) : LimitSet env := by
  intro written set
  cases settled with
  | environment set' said =>
    cases set.symm.trans set'
    cases said with
    | depth read positive => exact ⟨_, read, positive⟩
  | entry unset => cases set.symm.trans unset
  | default unset => cases set.symm.trans unset

/-- Entries come to the settings that are settled field by field, if each of them can be kept. -/
theorem ofEntries_eq_ok_iff : ofEntries given env = .ok s ↔
    Kept given ∧ s.depth.Faithful ∧ ∀ field, Settles env given field (Field.of s field) := by
  have settled : ∀ {t}, ofEntries given env = .ok t →
      t.depth.Faithful ∧ ∀ field, Settles env given field (Field.of t field) := by
    intro t loaded
    refine ⟨(loaded_of_ofEntries loaded).1, ?_⟩
    obtain ⟨base, mapped, overridden⟩ := bind_eq_ok_iff.1 loaded
    rw [ofMapping_of_known (known_of_ofMapping mapped)] at mapped
    exact settles_of_override (settles_of_ofFields mapped) overridden
  constructor
  · intro loaded
    exact ⟨sound_iff_kept.1 ((ofEntries_ends given env).returns_iff.1 ⟨s, loaded⟩).1,
      settled loaded⟩
  · rintro ⟨kept, faithful, settles⟩
    have limited := limitSet_of_settles (settles .depth)
    obtain ⟨t, loaded⟩ := (ofEntries_ends given env).returns_iff.2 ⟨sound_iff_kept.2 kept, limited⟩
    obtain ⟨faithful', settles'⟩ := settled loaded
    rw [loaded, eq_of_fields faithful' faithful fun field => (settles' field).unique (settles field)]

end Read

/-! ## Sources -/

section Sources

variable {files : Files} {env : Environment} {name : String} {s : Settings}

theorem ofEnvironment_eq_ofEntries (env : Environment) : ofEnvironment env = ofEntries [] env := by
  have usual : ofMapping [] = .ok default := rfl
  rw [ofEntries, usual]
  rfl

/-- A file without a character holds no entries. -/
theorem holds_nil_of_empty (empty : Yaml.TextAt files (Path.ofText name) []) :
    Holds files name [] :=
  ⟨.none, .value empty files.loader.load_nil, rfl⟩

theorem ofFile_eq_ok_iff : ofFile files env name = .ok s ↔ ∃ given, Holds files name given ∧
    Kept given ∧ s.depth.Faithful ∧ ∀ field, Settles env given field (Field.of s field) := by
  constructor
  · intro loaded
    obtain ⟨given, holds⟩ := exists_holds loaded
    rw [ofFile_of_holds holds, ofEntries_eq_ok_iff] at loaded
    exact ⟨given, holds, loaded⟩
  · rintro ⟨given, holds, settled⟩
    rw [ofFile_of_holds holds, ofEntries_eq_ok_iff]
    exact settled

theorem error_of_ofEntries_nil {given : Dictionary Value Value} {e : Failure SettingsError}
    (failed : ofEntries given [] = .error e) : ofEntries given env = .error e := by
  unfold ofEntries at failed ⊢
  cases mapped : ofMapping given with
  | error f =>
    rw [mapped] at failed
    exact failed
  | ok base =>
    -- without variables there is nothing that could go wrong after the entries are read
    rw [mapped] at failed
    cases failed

/-- A file without entries fails before the environment is read. -/
theorem ofFile_of_not_holds (empty : ¬ ∃ given, Holds files name given) :
    ofFile files env name = ofFile files [] name := by
  rw [ofFile_eq, ofFile_eq]
  cases read : Yaml.readFile files (Path.ofText name) with
  | error f => rfl
  | ok v =>
    have unheld : entriesOf? v = none := Option.eq_none_iff_forall_ne_some.2 fun given held =>
      empty ⟨given, v, Yaml.gives_iff.2 read, held⟩
    simp [bind, Except.bind, unheld]

/-- What goes wrong without an environment goes wrong in every environment. -/
theorem error_of_ofFile_nil {e : Failure SettingsError}
    (failed : ofFile files [] name = .error e) : ofFile files env name = .error e := by
  by_cases filled : ∃ given, Holds files name given
  · obtain ⟨given, holds⟩ := filled
    rw [ofFile_of_holds holds] at failed ⊢
    exact error_of_ofEntries_nil failed
  · rw [ofFile_of_not_holds filled]
    exact failed

/-- The settings that come from a file, from the environment, or from either. -/
inductive Loaded (files : Files) (env : Environment) (s : Settings) : Prop where
  | environment (loaded : ofEnvironment env = .ok s) : Loaded files env s
  | file {name : String} (loaded : ofFile files env name = .ok s) : Loaded files env s
  | sources {name : Option String} (loaded : ofSources files env name = .ok s) :
    Loaded files env s

/-- Settings from any source are settled field by field, by some entries or by none. -/
theorem exists_settles_of_loaded (loaded : Loaded files env s) : s.depth.Faithful ∧
    ∃ given, ∀ field, Settles env given field (Field.of s field) := by
  have of_environment : ∀ {s}, ofEnvironment env = .ok s → s.depth.Faithful ∧
      ∃ given, ∀ field, Settles env given field (Field.of s field) := by
    intro s loaded
    rw [ofEnvironment_eq_ofEntries, ofEntries_eq_ok_iff] at loaded
    exact ⟨loaded.2.1, [], loaded.2.2⟩
  have of_file : ∀ {name s}, ofFile files env name = .ok s → s.depth.Faithful ∧
      ∃ given, ∀ field, Settles env given field (Field.of s field) := by
    intro name s loaded
    obtain ⟨given, _, _, faithful, settles⟩ := ofFile_eq_ok_iff.1 loaded
    exact ⟨faithful, given, settles⟩
  cases loaded with
  | environment loaded => exact of_environment loaded
  | file loaded => exact of_file loaded
  | sources loaded =>
    unfold ofSources at loaded
    split at loaded
    · exact of_file loaded
    · exact of_environment loaded

/-- A level is kept in upper case, wherever it comes from. -/
theorem not_isSmall_of_settles {given : Dictionary Value Value} {level : String}
    (settled : Settles env given .level (.text level)) : ∀ c ∈ level.toList, ¬ Text.IsSmall c.toNat := by
  generalize kept : Value.text level = v at settled
  cases settled with
  | environment _ said =>
    cases said with
    | level text =>
      cases kept
      exact fun _ => Text.not_isSmall_upper
  | entry _ _ normal =>
    cases normal with
    | level =>
      cases kept
      exact fun _ => Text.not_isSmall_upper
  | default =>
    cases kept
    have capitals : ("WARNING".toList.all fun c => ¬ Text.IsSmall c.toNat) = true := by decide
    rw [List.all_eq_true] at capitals
    exact fun c member => of_decide_eq_true (capitals c member)

/-- A level that the environment names in ASCII is kept in capitals. -/
theorem logLevel_of_ascii {text : String} (loaded : Loaded files env s)
    (set : env.get? levelVariable = some text) (ascii : ∀ c ∈ text.toList, c.toNat < 128) :
    s.logLevel = text.map Char.toUpper := by
  obtain ⟨-, given, settles⟩ := exists_settles_of_loaded loaded
  have said : Settles env given .level (.text (Text.upper text)) := .environment set (.level text)
  rw [← Text.upper_ascii ascii]
  exact Value.text.inj ((settles .level).unique said)

/-- **Every field is settled on its own.** A file comes to what its entries and the environment
settle field by field, and to the same failure in every environment if it cannot be loaded alone.
An empty one comes to what the environment alone does.  Wherever settings come from, their limit is
one and their level is in upper case. -/
theorem settled_by_field (files : Files) (env : Environment) :
    (∀ name s, ofFile files env name = .ok s ↔ ∃ given, Holds files name given ∧
      Kept given ∧ s.depth.Faithful ∧ ∀ field, Settles env given field (Field.of s field)) ∧
    (∀ env' name s t, ofFile files env name = .ok s → ofFile files env' name = .ok t →
      ∀ field : Field, env'.get? field.variableName = env.get? field.variableName →
        field.of t = field.of s) ∧
    (∀ name e, ofFile files [] name = .error e → ofFile files env name = .error e) ∧
    (∀ name, Yaml.TextAt files (Path.ofText name) [] →
      ofFile files env name = ofEnvironment env) ∧
    (ofSources files env none = match env.get? fileVariable with
      | some file => ofFile files env file
      | none => ofEnvironment env) ∧
    ∀ s, Loaded files env s → s.depth.Faithful ∧
      (∀ c ∈ s.logLevel.toList, ¬ Text.IsSmall c.toNat) ∧
      ∀ text, env.get? levelVariable = some text → (∀ c ∈ text.toList, c.toNat < 128) →
        s.logLevel = text.map Char.toUpper := by
  refine ⟨fun _ _ => ofFile_eq_ok_iff, ?_, fun _ _ => error_of_ofFile_nil, ?_, rfl,
    fun s loaded => ?_⟩
  · intro env' name s t loaded loaded' field same
    obtain ⟨given, holds, -, -, settles⟩ := ofFile_eq_ok_iff.1 loaded
    obtain ⟨given', holds', -, -, settles'⟩ := ofFile_eq_ok_iff.1 loaded'
    obtain rfl := holds.unique holds'
    exact (settles' field).unique ((settles field).congr same)
  · intro name empty
    rw [ofFile_of_holds (holds_nil_of_empty empty), ofEnvironment_eq_ofEntries]
  · obtain ⟨faithful, given, settles⟩ := exists_settles_of_loaded loaded
    exact ⟨faithful, not_isSmall_of_settles (settles .level),
      fun text set ascii => logLevel_of_ascii loaded set ascii⟩

end Sources

/-! An environment that sets three of the fields, and a file that gives two fields. -/

namespace Layered

def files : Files where
  storage := .ofEntries [
    ("given.yaml", .file "max_depth: 5\nmetadata_type: app.Tag".toUTF8.toList),
    ("empty.yaml", .file []),
    ("shallow.yaml", .file "max_depth: 0".toUTF8.toList)]
  loader := Yaml.loader .asGiven

def env : Environment :=
  [(depthVariable, "3"), (levelVariable, "info"), (prefixesVariable, " app. , ,\tlib.")]

theorem textAt_empty : Yaml.TextAt files (Path.ofText "empty.yaml") [] := by
  refine ⟨by decide +kernel, [], ?_, rfl⟩
  decide +kernel

/-- The fields of settings, with the texts among them. -/
structure Reads (s : Settings) (type : String) (prefixes : List String) (depth : Nat)
    (level : String) : Prop where
  metadataType : s.metadataType.text? = some type
  reserved : s.reserved.mapM Value.text? = some prefixes
  depth : s.depth.levels = depth
  logLevel : s.logLevel = level

instance (s : Settings) (type : String) (prefixes : List String) (depth : Nat) (level : String) :
    Decidable (Reads s type prefixes depth level) :=
  decidable_of_iff (s.metadataType.text? = some type ∧
      s.reserved.mapM Value.text? = some prefixes ∧ s.depth.levels = depth ∧ s.logLevel = level)
    ⟨fun ⟨type, prefixes, depth, level⟩ => ⟨type, prefixes, depth, level⟩,
      fun ⟨type, prefixes, depth, level⟩ => ⟨type, prefixes, depth, level⟩⟩

theorem settled_layered : ∃ s t e,
    (ofFile files env "given.yaml" = .ok s ∧ Reads s "app.Tag" ["app.", "lib."] 3 "INFO") ∧
    (ofFile files [] "given.yaml" = .ok t ∧ Reads t "app.Tag" [builtinNamespace] 5 "WARNING") ∧
    (∃ given, Holds files "given.yaml" given ∧
      ∀ field, Settles env given field (Field.of s field)) ∧
    Field.of t .metadataType = Field.of s .metadataType ∧
    ofFile files [] "shallow.yaml" = .error e ∧ ofFile files env "shallow.yaml" = .error e ∧
    ofFile files env "empty.yaml" = ofEnvironment env ∧ s.depth.Faithful := by
  obtain ⟨settled, apart, fails, empty, -, faithful⟩ := settled_by_field files env
  have loaded : ∃ s, ofFile files env "given.yaml" = .ok s ∧
      Reads s "app.Tag" ["app.", "lib."] 3 "INFO" := by decide +kernel
  have alone : ∃ t, ofFile files [] "given.yaml" = .ok t ∧
      Reads t "app.Tag" [builtinNamespace] 5 "WARNING" := by decide +kernel
  obtain ⟨s, loaded, reads⟩ := loaded
  obtain ⟨t, alone, reads_alone⟩ := alone
  obtain ⟨given, holds, -, -, settles⟩ := (settled "given.yaml" s).1 loaded
  have same := apart [] "given.yaml" s t loaded alone .metadataType rfl
  have shallow : ¬ Returns (ofFile files [] "shallow.yaml") := by decide +kernel
  cases failed : ofFile files [] "shallow.yaml" with
  | ok u => exact absurd ⟨u, failed⟩ shallow
  | error e =>
    exact ⟨s, t, e, ⟨loaded, reads⟩, ⟨alone, reads_alone⟩, ⟨given, holds, settles⟩, same, rfl,
      fails "shallow.yaml" e failed, empty "empty.yaml" textAt_empty, (faithful s (.file loaded)).1⟩

end Layered

end Settings

end Hallmark
