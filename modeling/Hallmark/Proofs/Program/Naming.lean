/-
# Hallmark.Proofs.Program.Naming -- which texts name a subject

A text names a subject if there is something on both sides of its first `:`, what stands before it
is a module that can be imported, and the names between the points behind it lead from that module
to the subject, each of them to a member of what the one before it led to (`Leads`).  A module can
be imported if it is known: the modules above it are looked at only where it is not
(`load_eq_ok_iff`).

Every other text is refused, but for those that begin with a point: they ask for a module beside
another one, and there is none that they could be beside of (`find_named`).
-/
import Hallmark.Program.Import

namespace Hallmark.Program

set_option autoImplicit false

/-! ## Texts -/

/-- The texts before and after the first `:` of a text, neither of them empty. -/
structure Splits (written home path : String) : Prop where
  whole : written = home ++ ":" ++ path
  first : ':' ∉ home.toList
  home_ne : home ≠ ""
  path_ne : path ≠ ""

/-- The names between the points of a path. -/
structure Dotted (path : String) (names : List String) : Prop where
  some : names ≠ []
  plain : ∀ name ∈ names, '.' ∉ name.toList
  whole : ".".intercalate names = path

/-- A module that is asked for as one beside another. -/
def Relative (home : String) : Prop := ['.'] <+: home.toList

instance (home : String) : Decidable (Relative home) :=
  inferInstanceAs (Decidable (['.'] <+: home.toList))

variable {written home path : String}

theorem splits_iff : Splits written home path ↔
    Text.cut ':' written.toList = (home.toList, some path.toList) ∧ home ≠ "" ∧ path ≠ "" := by
  constructor
  · rintro ⟨rfl, first, home_ne, path_ne⟩
    have apart : (home ++ ":" ++ path).toList = home.toList ++ ':' :: path.toList := by simp
    exact ⟨by rw [apart, Text.cut_append first], home_ne, path_ne⟩
  · rintro ⟨cut, home_ne, path_ne⟩
    have plain := Text.not_mem_cut ':' written.toList
    rw [cut] at plain
    refine ⟨?_, plain, home_ne, path_ne⟩
    rw [← String.toList_inj, ← Text.append_of_cut cut]
    simp

theorem front_eq_iff (home_ne : home ≠ "") : home.front = '.' ↔ Relative home := by
  rw [String.front_eq, String.front?_eq, Relative]
  cases spelled : home.toList with
  | nil => exact absurd (String.toList_eq_nil_iff.1 spelled) home_ne
  | cons c rest => simp [eq_comm]

def dotted (path : String) : List String := (Text.pieces '.' path.toList).map String.ofList

theorem dotted_iff {names : List String} : Dotted path names ↔ names = dotted path := by
  have joined : ∀ names : List String,
      (".".intercalate names).toList = ['.'].intercalate (names.map String.toList) :=
    fun _ => String.toList_intercalate
  constructor
  · rintro ⟨some, plain, rfl⟩
    have pieces : Text.pieces '.' (['.'].intercalate (names.map String.toList)) =
        names.map String.toList :=
      Text.pieces_intercalate (by simpa using some) (by simpa using plain)
    rw [dotted, joined, pieces]
    simp [Function.comp_def]
  · rintro rfl
    refine ⟨?_, ?_, ?_⟩
    · simpa [dotted] using Text.pieces_ne_nil '.' path.toList
    · simpa [dotted] using fun piece => Text.not_mem_of_mem_pieces
    · rw [← String.toList_inj, joined, dotted]
      simpa [Function.comp_def] using Text.intercalate_pieces '.' path.toList

/-! ## Modules and members -/

/-- Some names lead from a subject to another one, each to a member. -/
inductive Leads (p : Program) : Subject → List String → Subject → Prop where
  | here (s : Subject) : Leads p s [] s
  | member {s t u : Subject} {name : String} {rest : List String}
      (held : p.member? s name = some t) (onward : Leads p t rest u) : Leads p s (name :: rest) u

/-- A module that can be imported. -/
structure Importable (p : Program) (home : String) : Prop where
  absolute : ¬ Relative home
  known : p.isKnownModule home = true

variable {p : Program}

theorem leads_iff {s u : Subject} {names : List String} :
    Leads p s names u ↔ p.follow s names = some u := by
  induction names generalizing s with
  | nil =>
    constructor
    · rintro ⟨⟩
      rfl
    · intro found
      cases found
      exact .here _
  | cons name rest ih =>
    rw [follow, List.foldlM_cons, Option.bind_eq_bind, Option.bind_eq_some_iff]
    constructor
    · rintro (_ | ⟨held, onward⟩)
      exact ⟨_, held, ih.1 onward⟩
    · rintro ⟨t, held, onward⟩
      exact .member held (ih.2 onward)

/-- Nothing is loaded that is not known; what is above a module does not make it so. -/
theorem load_eq_ok_iff {wanted : String} {steps : List String} (some : steps ≠ []) :
    p.load wanted steps = .ok () ↔ p.isKnownModule (moduleName steps) = true := by
  cases steps with
  | nil => exact absurd rfl some
  | cons last above =>
    rw [load]
    by_cases known : p.isKnownModule (moduleName (last :: above)) = true
    · simp only [known, if_true]
    · simp only [known, if_false, iff_false, Bool.false_eq_true]
      split
      · nofun
      · rw [bind_eq_ok_iff]
        rintro ⟨-, -, failed⟩
        cases failed

theorem moduleName_dotted (home : String) : moduleName (dotted home).reverse = home := by
  rw [moduleName, List.reverse_reverse]
  exact (dotted_iff.2 rfl).whole

/-! ## Naming -/

/-- A text names a subject that the path behind a module leads to. -/
inductive Names (p : Program) (written : String) (s : Subject) : Prop where
  | led {home path : String} {names : List String} (splits : Splits written home path)
      (importable : Importable p home) (apart : Dotted path names)
      (leads : Leads p (.module home) names s)

theorem find_of_not_splits (none : ∀ home path, ¬ Splits written home path) :
    p.find written = .error (.refused (.form written)) := by
  obtain ⟨name, rest, cut⟩ : ∃ name rest, Text.cut ':' written.toList = (name, rest) := ⟨_, _, rfl⟩
  have empty : (name.isEmpty || (rest.getD []).isEmpty) = true := by
    cases rest with
    | none => exact Bool.or_true _
    | some path =>
      refine Bool.not_eq_false _ ▸ fun full => ?_
      have both : name ≠ [] ∧ path ≠ [] := by simpa using full
      refine none (.ofList name) (.ofList path) (splits_iff.2 ⟨by simpa using cut, ?_, ?_⟩)
      · simpa using both.1
      · simpa using both.2
  rw [find, cut]
  simp only [empty]
  rfl

theorem find_of_splits (splits : Splits written home path) :
    p.find written =
      if Relative home then .error (.fault (.relativeModule home))
      else
        (p.load home (dotted home).reverse).mapError .refused >>= fun _ =>
          match p.follow (.module home) (dotted path) with
          | some s => .ok s
          | none => .error (.refused (.noMember home path)) := by
  obtain ⟨cut, home_ne, path_ne⟩ := splits_iff.1 splits
  have full : (home.toList.isEmpty || path.toList.isEmpty) = false := by
    simpa using ⟨home_ne, path_ne⟩
  rw [find, cut]
  simp only [Option.getD_some, full, String.ofList_toList, front_eq_iff home_ne]
  rfl

theorem find_eq_ok_iff {s : Subject} : p.find written = .ok s ↔ Names p written s := by
  have steps (home : String) : (dotted home).reverse ≠ [] := by
    simpa using (dotted_iff.2 rfl : Dotted home _).some
  constructor
  · intro found
    by_cases parted : ∃ home path, Splits written home path
    · obtain ⟨home, path, splits⟩ := parted
      rw [find_of_splits splits] at found
      split at found
      · cases found
      · rename_i absolute
        obtain ⟨⟨⟩, loaded, followed⟩ := bind_eq_ok_iff.1 found
        rw [mapError_eq_ok_iff, load_eq_ok_iff (steps home), moduleName_dotted] at loaded
        split at followed
        · rename_i led
          cases followed
          exact .led splits ⟨absolute, loaded⟩ (dotted_iff.2 rfl) (leads_iff.2 led)
        · cases followed
    · simp only [not_exists] at parted
      rw [find_of_not_splits parted] at found
      cases found
  · rintro @⟨home, path, names, splits, importable, apart, leads⟩
    obtain rfl := dotted_iff.1 apart
    have loaded : p.load home (dotted home).reverse = .ok () := by
      rw [load_eq_ok_iff (steps home), moduleName_dotted]
      exact importable.known
    rw [find_of_splits splits, if_neg importable.absolute, loaded, leads_iff.1 leads]
    rfl

theorem find_eq_fault_iff {f : Fault} : p.find written = .error (.fault f) ↔
    ∃ home path, Splits written home path ∧ Relative home ∧ f = .relativeModule home := by
  constructor
  · intro failed
    by_cases parted : ∃ home path, Splits written home path
    · obtain ⟨home, path, splits⟩ := parted
      rw [find_of_splits splits] at failed
      split at failed
      · rename_i relative
        cases failed
        exact ⟨home, path, splits, relative, rfl⟩
      · -- neither loading nor following fails with a fault
        revert failed
        cases p.load home (dotted home).reverse with
        | error e => nofun
        | ok _ => cases p.follow (.module home) (dotted path) <;> nofun
    · simp only [not_exists] at parted
      rw [find_of_not_splits parted] at failed
      cases failed
  · rintro ⟨home, path, splits, relative, rfl⟩
    rw [find_of_splits splits, if_pos relative]

/-- **Which texts name a subject.**  Every other text is refused, unless it asks for a module
beside another one: that is a fault. -/
theorem find_named (p : Program) (written : String) :
    (∀ s, p.find written = .ok s ↔ Names p written s) ∧
    (Refuses (p.find written) ↔ (∀ s, ¬ Names p written s) ∧
      ∀ home path, Splits written home path → ¬ Relative home) ∧
    ∀ f, p.find written = .error (.fault f) ↔
      ∃ home path, Splits written home path ∧ Relative home ∧ f = .relativeModule home := by
  refine ⟨fun _ => find_eq_ok_iff, ?_, fun _ => find_eq_fault_iff⟩
  rw [refuses_iff]
  simp only [Returns, Faults, find_eq_ok_iff, find_eq_fault_iff, not_exists, not_and]
  exact and_congr_right fun _ =>
    ⟨fun absolute home path splits relative => absolute _ home path splits relative rfl,
      fun absolute _ home path splits relative _ => absolute home path splits relative⟩

example : initial.find "metamatch.api:MetaData.kind" = .ok (.value (.text "")) := rfl

/-! A text that begins with a point names nothing, and is not refused. -/

namespace Beside

theorem find_beside : initial.find ".rel:thing" = .error (.fault (.relativeModule ".rel")) ∧
    ∀ s, ¬ Names initial ".rel:thing" s := by
  have splits : Splits ".rel:thing" ".rel" "thing" := ⟨rfl, by decide, by decide, by decide⟩
  have failed := find_eq_fault_iff (p := initial).2 ⟨_, _, splits, by decide, rfl⟩
  refine ⟨failed, fun s named => ?_⟩
  rw [find_eq_ok_iff.2 named] at failed
  cases failed

end Beside

end Hallmark.Program
