/-
# Hallmark.Proofs.Text.Order -- texts in the order of their code points

A stand-in holds a surrogate and every other character holds itself, so that two characters
never hold the same code point, and two texts never the same code points.  The order of texts
is the lexicographic order of these.
-/
import Hallmark.Text.Surrogate
import Mathlib.Data.Char
import Mathlib.Data.List.Lex

namespace Hallmark.Text

set_option autoImplicit false

/-- No character is a surrogate. -/
theorem isSurrogate_toNat (c : Char) : isSurrogate c.toNat = false := by
  have valid : c.toNat < 0xD800 ∨ 0xDFFF < c.toNat ∧ c.toNat < 0x110000 := c.valid
  simp only [isSurrogate, Bool.and_eq_false_iff, decide_eq_false_iff_not]
  omega

theorem isSurrogate_codePoint_iff (c : Char) :
    isSurrogate (codePoint c) = true ↔ isStandIn c = true := by
  unfold codePoint
  cases standIn : isStandIn c with
  | true =>
    simp only [isStandIn, Bool.and_eq_true] at standIn
    simp [standIn.2]
  | false => simp [isSurrogate_toNat]

theorem codePoint_injective : Function.Injective codePoint := by
  intro c d same
  have kind : isStandIn c = isStandIn d := by
    rw [Bool.eq_iff_iff, ← isSurrogate_codePoint_iff, ← isSurrogate_codePoint_iff, same]
  unfold codePoint at same
  rw [← kind] at same
  cases standIn : isStandIn c with
  | false => simpa [standIn, Char.toNat_inj] using same
  | true =>
    have standIn' := kind.symm.trans standIn
    simp only [isStandIn, Bool.and_eq_true, decide_eq_true_eq] at standIn standIn'
    rw [if_pos (by simp [isStandIn, standIn]), if_pos (by simp [isStandIn, standIn])] at same
    exact Char.toNat_inj.1 (by omega)

/-- The code points that a text holds. -/
def points (s : String) : List Nat := s.toList.map codePoint

theorem points_injective : Function.Injective points := fun _ _ same =>
  String.toList_injective (codePoint_injective.list_map same)

theorem precedes_iff {s t : String} : precedes s t = true ↔ points s < points t :=
  decide_eq_true_iff

end Hallmark.Text
