/-
# Hallmark.Query.Property -- names that may carry a value

A property is written `name` or `name=value`: the name ends before the first `=`, and
everything after that `=` is the value.  A property without `=` has no value, which is
not the same as the empty one.  `Property.shown` writes a property back.
-/
import Hallmark.Text.Split

namespace Hallmark.Query

set_option autoImplicit false

structure Property where
  name : String
  value : Option String
deriving DecidableEq, Repr

namespace Property

def ofText (s : String) : Property :=
  let (name, value) := Text.cut '=' s.toList
  ⟨String.ofList name, value.map String.ofList⟩

def shown (p : Property) : String :=
  match p.value with
  | none => p.name
  | some value => p.name ++ "=" ++ value

/-- Written back, a text that was read as a property is the text. -/
@[simp] theorem shown_ofText (s : String) : (ofText s).shown = s := by
  obtain ⟨name, value, parts⟩ : ∃ name value, Text.cut '=' s.toList = (name, value) := ⟨_, _, rfl⟩
  rw [ofText, parts]
  cases value with
  | none =>
    change String.ofList name = s
    rw [Text.eq_of_cut parts, String.ofList_toList]
  | some value =>
    change String.ofList name ++ "=" ++ String.ofList value = s
    rw [← String.toList_inj, ← Text.append_of_cut parts]
    simp

theorem not_mem_name_ofText (s : String) : '=' ∉ (ofText s).name.toList := by
  have plain := Text.not_mem_cut '=' s.toList
  simpa [ofText] using plain

/-- Read back, a property without `=` in its name is the property. -/
theorem ofText_shown {p : Property} (plain : '=' ∉ p.name.toList) : ofText p.shown = p := by
  obtain ⟨name, value⟩ := p
  cases value with
  | none =>
    change ofText name = _
    rw [ofText, Text.cut_of_not_mem plain]
    simp
  | some value =>
    have written : (name ++ "=" ++ value).toList = name.toList ++ '=' :: value.toList := by simp
    change ofText (name ++ "=" ++ value) = _
    rw [ofText, written, Text.cut_append plain]
    simp

end Property

end Hallmark.Query
