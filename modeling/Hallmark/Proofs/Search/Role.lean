/-
# Hallmark.Proofs.Search.Role -- which names a search enters

A name that is neither the metadata type nor reserved is ordinary.  A test against the
reserved prefixes can fail only on a prefix that is no text, and a name that passes all
of them shows that none of them is at fault (`isReserved_ok_of_false`): where there is
one ordinary name, every name has a role.
-/
import Hallmark.Search

namespace Hallmark

set_option autoImplicit false

open Document

namespace Settings

/-! ## Faulty prefixes -/

theorem startsWithAny_ok_of_false {name : String} {starts : List Value}
    (outside : startsWithAny name starts = .ok false) (other : String) :
    ∃ reserved, startsWithAny other starts = .ok reserved := by
  induction starts with
  | nil => exact ⟨false, rfl⟩
  | cons v rest ih =>
    cases v with
    | text start =>
      simp only [startsWithAny] at outside ⊢
      split at outside
      · cases outside
      · split
        · exact ⟨true, rfl⟩
        · exact ih outside
    | _ => cases outside

theorem startsWith_ok_of_false {name : String} {v : Value}
    (outside : startsWith name v = .ok false) (other : String) :
    ∃ reserved, startsWith other v = .ok reserved := by
  cases v with
  | text start => exact ⟨hasPrefix other start, rfl⟩
  | tuple starts => exact startsWithAny_ok_of_false outside other
  | _ => cases outside

theorem isReservedBy_cons {name : String} {v : Value} {rest : List Value} :
    isReservedBy name (v :: rest) = match startsWith name v with
      | .error f => .error f
      | .ok true => .ok true
      | .ok false => isReservedBy name rest := by
  rw [isReservedBy]
  cases startsWith name v with
  | error f => rfl
  | ok reserved => cases reserved <;> rfl

theorem isReservedBy_ok_of_false {name : String} {prefixes : List Value}
    (outside : isReservedBy name prefixes = .ok false) (other : String) :
    ∃ reserved, isReservedBy other prefixes = .ok reserved := by
  induction prefixes with
  | nil => exact ⟨false, rfl⟩
  | cons v rest ih =>
    rw [isReservedBy_cons] at outside ⊢
    split at outside
    · cases outside
    · cases outside
    · rename_i passed
      obtain ⟨reserved, tested⟩ := startsWith_ok_of_false passed other
      rw [tested]
      cases reserved with
      | true => exact ⟨true, rfl⟩
      | false => exact ih outside

/-- A name outside every prefix was tested against all of them. -/
theorem isReserved_ok_of_false {s : Settings} {name : String}
    (outside : s.isReserved name = .ok false) (other : String) :
    ∃ reserved, s.isReserved other = .ok reserved :=
  isReservedBy_ok_of_false outside other

/-- Only a prefix that is no text is at fault. -/
theorem exists_not_text_of_error {name : String} {prefixes : List Value} {f : Fault}
    (faulty : isReservedBy name prefixes = .error f) : ∃ v ∈ prefixes, v.text? = none := by
  induction prefixes with
  | nil => cases faulty
  | cons v rest ih =>
    cases v with
    | text start =>
      rw [isReservedBy_cons] at faulty
      simp only [startsWith] at faulty
      split at faulty
      · contradiction
      · cases faulty
      · obtain ⟨w, member, untyped⟩ := ih faulty
        exact ⟨w, List.mem_cons_of_mem _ member, untyped⟩
    | _ => exact ⟨_, List.mem_cons_self, rfl⟩

/-! ## Roles -/

variable {s : Settings} {name : String}

theorem role_cases (s : Settings) (name : String) :
    s.role name = .ok .metadata ∨
      (s.role name = .ok .reserved ∧ s.isReserved name = .ok true) ∨
      (s.role name = .ok .ordinary ∧ s.isReserved name = .ok false) ∨
      ∃ f, s.role name = .error f ∧ s.isReserved name = .error f := by
  unfold role
  split
  · exact .inl rfl
  · cases tested : s.isReserved name with
    | error f => exact .inr (.inr (.inr ⟨f, rfl, rfl⟩))
    | ok reserved =>
      cases reserved with
      | true => exact .inr (.inl ⟨rfl, rfl⟩)
      | false => exact .inr (.inr (.inl ⟨rfl, rfl⟩))

/-- Away from the metadata type the test against the prefixes decides the role. -/
theorem isReserved_eq_of_role {r : Except Fault Role} (tested : s.role name = r)
    (different : r ≠ .ok .metadata) : s.isReserved name = (· == .reserved) <$> r := by
  subst tested
  rcases role_cases s name with metadata | ⟨role, inside⟩ | ⟨role, outside⟩ | ⟨f, role, failed⟩
  · exact absurd metadata different
  · rw [role, inside]
    rfl
  · rw [role, outside]
    rfl
  · rw [role, failed]
    rfl

theorem isReserved_of_ordinary (ordinary : s.role name = .ok .ordinary) :
    s.isReserved name = .ok false :=
  isReserved_eq_of_role ordinary nofun

theorem isReserved_of_reserved (reserved : s.role name = .ok .reserved) :
    s.isReserved name = .ok true :=
  isReserved_eq_of_role reserved nofun

theorem isReserved_of_fault {f : Fault} (faulty : s.role name = .error f) :
    s.isReserved name = .error f :=
  isReserved_eq_of_role faulty nofun

theorem role_of_unreserved (unreserved : s.isReserved name = .ok false) :
    s.role name = .ok .metadata ∨ s.role name = .ok .ordinary := by
  rcases role_cases s name with metadata | ⟨-, inside⟩ | ⟨ordinary, -⟩ | ⟨f, -, failed⟩
  · exact .inl metadata
  · rw [inside] at unreserved
    cases unreserved
  · exact .inr ordinary
  · rw [failed] at unreserved
    cases unreserved

theorem exists_not_text_of_role_error {f : Fault} (faulty : s.role name = .error f) :
    ∃ v ∈ s.reserved, v.text? = none :=
  exists_not_text_of_error (isReserved_of_fault faulty)

theorem role_eq_metadata_iff : s.role name = .ok .metadata ↔ s.metadataType = .text name := by
  by_cases named : (s.metadataType == Value.text name) = true
  · have role : s.role name = .ok .metadata := if_pos named
    exact ⟨fun _ => Value.beq_text_iff.1 named, fun _ => role⟩
  · refine ⟨fun metadata => ?_, fun same => absurd (Value.beq_text_iff.2 same) named⟩
    rw [role, if_neg named] at metadata
    cases tested : s.isReserved name with
    | error f =>
      rw [tested] at metadata
      cases metadata
    | ok reserved =>
      rw [tested] at metadata
      cases reserved <;> cases metadata

theorem metadataType_ne_of_ordinary (ordinary : s.role name = .ok .ordinary) :
    s.metadataType ≠ .text name := by
  intro named
  rw [role_eq_metadata_iff.2 named] at ordinary
  cases ordinary

/-- Where one name is ordinary, no name is at fault. -/
theorem role_ne_error_of_ordinary (ordinary : s.role name = .ok .ordinary) (other : String)
    (f : Fault) : s.role other ≠ .error f := by
  intro faulty
  obtain ⟨reserved, tested⟩ := isReserved_ok_of_false (isReserved_of_ordinary ordinary) other
  rw [isReserved_of_fault faulty] at tested
  cases tested

end Settings

end Hallmark
