/-
# Hallmark.Proofs.Text.Whole -- what is read as a number can be written

In base ten no more digits are read than may be written, and a number is less than the power of
its base with as many factors as it has digits.
-/
import Hallmark.Document.Display
import Mathlib.Data.Nat.Digits.Defs

namespace Hallmark

set_option autoImplicit false

namespace Text

theorem digitIn?_lt {base d : Nat} {c : Char} (digit : digitIn? base c = some d) : d < base := by
  simpa using (Option.filter_eq_some_iff.1 digit).2

theorem lt_of_mem_readDigits {base : Nat} {cs : List Char} {afterDigit : Bool} {digits : List Nat}
    (read : readDigits base afterDigit cs = some digits) : ∀ d ∈ digits, d < base := by
  induction cs generalizing afterDigit digits with
  | nil =>
    cases afterDigit <;> cases read
    nofun
  | cons c rest ih =>
    rw [readDigits] at read
    split at read
    · split at read
      · exact ih read
      · cases read
    · obtain ⟨d, digit, later⟩ := Option.bind_eq_some_iff.1 read
      obtain ⟨others, readOthers, rfl⟩ := Option.map_eq_some_iff.1 later
      exact List.forall_mem_cons.2 ⟨digitIn?_lt digit, ih readOthers⟩

theorem ofDigits_eq (base : Nat) (digits : List Nat) :
    ofDigits base digits = Nat.ofDigits base digits.reverse := by
  rw [Nat.ofDigits_eq_foldr, List.foldr_reverse, ofDigits]
  refine congrArg (digits.foldl · 0) (funext fun total => funext fun d => ?_)
  simp [Nat.add_comm, Nat.mul_comm]

theorem ofDigits_lt {base : Nat} {digits : List Nat} (several : 1 < base)
    (below : ∀ d ∈ digits, d < base) : ofDigits base digits < base ^ digits.length := by
  rw [ofDigits_eq, ← List.length_reverse]
  exact Nat.ofDigits_lt_base_pow_length several (by simpa using below)

/-- A number that is read in base ten has no more digits than are read at most. -/
theorem natAbs_lt_of_readWhole? {cs : List Char} {n : Int} (read : readWhole? 10 cs = some n) :
    n.natAbs < 10 ^ longestDecimal := by
  unfold readWhole? readWhole at read
  generalize takeSign (trimMargin cs) = signed at read
  obtain ⟨negative, body⟩ := signed
  dsimp only at read
  split at read
  · cases read
  · rename_i digits run
    by_cases long : longestDecimal < digits.length
    · rw [if_pos ⟨rfl, long⟩] at read
      cases read
    · rw [if_neg fun both => long both.2] at read
      have below : ofDigits 10 digits < 10 ^ longestDecimal :=
        Nat.lt_of_lt_of_le (ofDigits_lt (by decide) (lt_of_mem_readDigits run))
          (Nat.pow_le_pow_right (by decide) (Nat.le_of_not_lt long))
      split at read
      · cases read
      · cases read
        cases negative <;> simpa using below

end Text

namespace Document.Value

theorem tooLong_eq : tooLong = 10 ^ Text.longestDecimal := by
  delta tooLong
  generalize Text.longestDecimal = digits
  rfl

/-- What is read as a number can be written again. -/
theorem isWritable_of_readWhole? {cs : List Char} {n : Int}
    (read : Text.readWhole? 10 cs = some n) : (whole n).isWritable = true := by
  have short := Text.natAbs_lt_of_readWhole? read
  rw [← tooLong_eq] at short
  exact decide_eq_true short
end Document.Value

end Hallmark
