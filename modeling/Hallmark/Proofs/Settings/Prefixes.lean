/-
# Hallmark.Proofs.Settings.Prefixes -- which prefixes every name can be tested against

Prefixes are kept as they were given.  A text is one part of a prefix to try, a tuple is one
part for each of its items, and the first part that a name starts with ends the test.  The test
fails at a part that is no text, unless an earlier part ended it.

The empty name ends its tests as late as any: it starts with the empty text alone, and every name
does so too.  Hence all names can be tested exactly if no part before the first empty text is
anything but a text (`returns_isReservedBy_iff`).
-/
import Hallmark.Proofs.Search.Role
import Mathlib.Data.List.TakeWhile

namespace Hallmark

set_option autoImplicit false

open Document

namespace Settings

/-- What a prefix consists of. -/
def parts : Value → List Value
  | .tuple items => items
  | v => [v]

/-- Every part before the first empty text is a text. -/
def Testable (prefixes : List Value) : Prop :=
  ∀ v ∈ (prefixes.flatMap parts).takeWhile (!· == .text ""), ∃ s, v = .text s

theorem testable_of_texts {prefixes : List Value} (texts : ∀ v ∈ prefixes, ∃ s, v = .text s) :
    Testable prefixes := by
  intro v tried
  obtain ⟨p, member, part⟩ := List.mem_flatMap.1 ((List.takeWhile_prefix _).subset tried)
  obtain ⟨s, rfl⟩ := texts p member
  exact ⟨s, by simpa [parts] using part⟩

/-! ## One list of parts -/

variable {name : String}

theorem startsWithAny_append (l m : List Value) :
    startsWithAny name (l ++ m) = match startsWithAny name l with
      | .ok false => startsWithAny name m
      | r => r := by
  induction l with
  | nil => rfl
  | cons v rest ih =>
    cases v with
    | text start =>
      rw [List.cons_append, startsWithAny, startsWithAny]
      split
      · rfl
      · exact ih
    | _ => rfl

theorem toOption_startsWith (v : Value) :
    (startsWith name v).toOption = (startsWithAny name (parts v)).toOption := by
  cases v with
  | text start =>
    simp only [startsWith, parts, startsWithAny]
    cases hasPrefix name start <;> rfl
  | _ => rfl

/-- Testing prefix by prefix comes to the same as testing part by part, whichever fault it may
fail with. -/
theorem toOption_isReservedBy (prefixes : List Value) :
    (isReservedBy name prefixes).toOption =
      (startsWithAny name (prefixes.flatMap parts)).toOption := by
  induction prefixes with
  | nil => rfl
  | cons v rest ih =>
    rw [isReservedBy_cons, List.flatMap_cons, startsWithAny_append]
    have same : (startsWith name v).toOption = _ := toOption_startsWith v
    cases tested : startsWith name v <;> cases tried : startsWithAny name (parts v)
    all_goals simp only [tested, tried, Except.toOption] at same
    · rfl
    · cases same
    · cases same
    · cases same
      rename_i reserved
      cases reserved
      · exact ih
      · rfl

/-! ## Names -/

/-- A part that a name starts with. -/
def opens (name : String) : Value → Bool
  | .text start => hasPrefix name start
  | _ => false

theorem returns_startsWithAny_iff (l : List Value) :
    Returns (startsWithAny name l) ↔ ∀ v ∈ l.takeWhile (!opens name ·), ∃ s, v = .text s := by
  induction l with
  | nil => simp [startsWithAny, Returns]
  | cons v rest ih =>
    cases v with
    | text start =>
      rw [startsWithAny, List.takeWhile_cons, opens]
      cases hasPrefix name start with
      | true => simp [Returns]
      | false => simpa using ih
    | _ => simp [startsWithAny, Returns, opens]

theorem opens_of_empty {v : Value} (empty : (v == .text "") = true) : opens name v = true := by
  rw [Value.beq_text_iff.1 empty]
  rfl

theorem opens_empty (v : Value) : opens "" v = (v == .text "") := by
  rw [Bool.eq_iff_iff, Value.beq_text_iff]
  cases v with
  | text start =>
    have nothing : hasPrefix "" start = start.toList.isEmpty := by
      cases h : start.toList <;> simp [hasPrefix, h]
    simp [opens, nothing]
  | _ => simp [opens]

/-- **Which prefixes can be tested.** Testing every name against them returns exactly if they are
`Testable`. -/
theorem returns_isReservedBy_iff (prefixes : List Value) :
    (∀ name, Returns (isReservedBy name prefixes)) ↔ Testable prefixes := by
  simp only [returns_iff_toOption, toOption_isReservedBy]
  simp only [← returns_iff_toOption, returns_startsWithAny_iff]
  constructor
  · intro tested
    have latest := tested ""
    simp only [opens_empty] at latest
    exact latest
  · intro testable name v tried
    -- what a name tries is the beginning of what the empty name tries
    have earlier : (prefixes.flatMap parts).takeWhile (!opens name ·) =
        ((prefixes.flatMap parts).takeWhile (!· == .text "")).takeWhile (!opens name ·) := by
      rw [List.takeWhile_takeWhile]
      refine congrArg (List.takeWhile · _) (funext fun w => ?_)
      cases empty : w == .text "" with
      | false => simp
      | true => simp [opens_of_empty empty]
    rw [earlier] at tried
    exact testable v ((List.takeWhile_prefix _).subset tried)

end Settings

end Hallmark
