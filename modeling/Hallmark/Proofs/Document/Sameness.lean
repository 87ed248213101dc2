/-
# Hallmark.Proofs.Document.Sameness -- being the same key is an equivalence of keys

Keys are the same as numbers or as what they are: a truth value is a number, a real may be a
whole one, moments are the same at one instant, and tuples item by item.  `Alike` has one rule
for each of these ways, and by induction along the rules being the same is symmetric and
transitive for all values.  Only keys are the same as themselves; a list is not.
-/
import Hallmark.Document.Value

namespace Hallmark

set_option autoImplicit false

open Decimal Document

/-! ## Numbers -/

namespace Decimal.Binary64

variable {x y : Binary64}

theorem same_iff : x.same y = true ↔
    x ≠ .nan ∧ (x.isZero = true ∧ y.isZero = true ∨ x = y) := by
  cases x with
  | nan => simp [same]
  | _ => simp [same]

/-- A zero is the whole number zero. -/
theorem whole?_of_isZero (zero : x.isZero = true) : x.whole? = some 0 := by
  cases x with
  | finite negative mantissa exponent =>
    obtain rfl : mantissa = 0 := by simpa [isZero] using zero
    cases negative <;> simp [whole?]
  | _ => cases zero

end Decimal.Binary64

namespace Document

/-- Moments are the same at one instant, or as what they are if their instants are not known. -/
theorem Moment.same_iff {m n : Moment} : m.same n = true ↔
    m.instant? = n.instant? ∧ (m.instant? = none → m = n) := by
  unfold same
  cases m.instant? with
  | none => cases n.instant? <;> simp
  | some a => cases n.instant? <;> simp

namespace Value

variable {x y z : Value}

/-- Two numbers are the same whole number, or one number with a fraction. -/
theorem sameNumber_iff : sameNumber x y = true ↔
    (∃ n, x.whole? = some n ∧ y.whole? = some n) ∨
      ∃ a, x = .real a ∧ y = .real a ∧ a.same a = true ∧ a.whole? = Option.none := by
  constructor
  · intro related
    unfold sameNumber at related
    split at related
    · rename_i m n left right
      obtain rfl : m = n := by simpa using related
      exact .inl ⟨m, left, right⟩
    · rename_i broken
      split at related
      · rename_i a b
        obtain ⟨-, ⟨zero, zero'⟩ | rfl⟩ := Binary64.same_iff.1 related
        · exact absurd (Binary64.whole?_of_isZero zero') (broken 0 0 (Binary64.whole?_of_isZero zero))
        · refine .inr ⟨a, rfl, rfl, related, Option.eq_none_iff_forall_ne_some.2 fun n whole => ?_⟩
          exact broken n n whole whole
      · cases related
  · rintro (⟨n, left, right⟩ | ⟨a, rfl, rfl, related, broken⟩)
    · simp [sameNumber, left, right]
    · simpa [sameNumber, whole?, broken] using related

theorem sameNumber_comm (related : sameNumber x y = true) : sameNumber y x = true := by
  rw [sameNumber_iff] at related ⊢
  rcases related with ⟨n, left, right⟩ | ⟨a, rfl, rfl, itself⟩
  · exact .inl ⟨n, right, left⟩
  · exact .inr ⟨a, rfl, rfl, itself⟩

theorem sameNumber_trans (first : sameNumber x y = true) (second : sameNumber y z = true) :
    sameNumber x z = true := by
  rw [sameNumber_iff] at first second ⊢
  rcases first with ⟨n, left, right⟩ | ⟨a, rfl, rfl, itself, broken⟩
  · rcases second with ⟨m, left', right'⟩ | ⟨b, rfl, rfl, -, broken⟩
    · obtain rfl : n = m := Option.some.inj (right.symm.trans left')
      exact .inl ⟨n, left, right'⟩
    · cases right.symm.trans broken
  · rcases second with ⟨m, left, -⟩ | ⟨b, same, rfl, -⟩
    · cases left.symm.trans broken
    · exact .inr ⟨a, rfl, same.symm, itself, broken⟩

/-! ## Keys -/

/-- The same keys, one rule for each way in which two can be the same. -/
inductive Alike : Value → Value → Prop where
  | none : Alike .none .none
  | text (s : String) : Alike (.text s) (.text s)
  | octets (bytes : List UInt8) : Alike (.octets bytes) (.octets bytes)
  | date (d : Date) : Alike (.date d) (.date d)
  | moment {m n : Moment} (same : m.same n = true) : Alike (.moment m) (.moment n)
  | undefined (mark : Nat) : Alike (.undefined mark) (.undefined mark)
  | number {x y : Value} (same : sameNumber x y = true) : Alike x y
  | empty : Alike (.tuple []) (.tuple [])
  | tuple {x y : Value} {xs ys : List Value} (first : Alike x y)
    (rest : Alike (.tuple xs) (.tuple ys)) : Alike (.tuple (x :: xs)) (.tuple (y :: ys))

mutual

theorem alike_of_same (x y : Value) (related : same x y = true) : Alike x y := by
  cases x with
  | tuple xs =>
    cases y with
    | tuple ys => exact alike_of_sameItems xs ys related
    | _ => exact .number related
  | none =>
    cases y with
    | none => exact .none
    | _ => exact .number related
  | text s =>
    cases y with
    | text t =>
      obtain rfl : s = t := by simpa [same] using related
      exact .text s
    | _ => exact .number related
  | octets bytes =>
    cases y with
    | octets others =>
      obtain rfl : bytes = others := by simpa [same] using related
      exact .octets bytes
    | _ => exact .number related
  | date d =>
    cases y with
    | date e =>
      obtain rfl : d = e := by simpa [same] using related
      exact .date d
    | _ => exact .number related
  | moment m =>
    cases y with
    | moment n => exact .moment related
    | _ => exact .number related
  | undefined mark =>
    cases y with
    | undefined other =>
      obtain rfl : mark = other := by simpa [same] using related
      exact .undefined mark
    | _ => exact .number related
  | _ => exact .number related

theorem alike_of_sameItems (xs ys : List Value) (related : sameItems xs ys = true) :
    Alike (.tuple xs) (.tuple ys) := by
  cases xs with
  | nil =>
    cases ys with
    | nil => exact .empty
    | cons y ys => cases related
  | cons x xs =>
    cases ys with
    | nil => cases related
    | cons y ys =>
      rw [sameItems, Bool.and_eq_true] at related
      exact .tuple (alike_of_same x y related.1) (alike_of_sameItems xs ys related.2)

end

theorem same_of_alike (alike : Alike x y) : same x y = true := by
  induction alike with
  | none => rfl
  | text | octets | date | undefined => simp [same]
  | moment related => exact related
  | @number x y related =>
    cases x with
    | truth | whole | real => exact related
    | _ => simp [sameNumber, whole?] at related
  | empty => rfl
  | tuple _ _ first rest => exact Bool.and_eq_true_iff.2 ⟨first, rest⟩

theorem Alike.symm (alike : Alike x y) : Alike y x := by
  induction alike with
  | none => exact .none
  | text s => exact .text s
  | octets bytes => exact .octets bytes
  | date d => exact .date d
  | moment related =>
    obtain ⟨instant, clock⟩ := Moment.same_iff.1 related
    exact .moment (Moment.same_iff.2 ⟨instant.symm, fun unknown => (clock (instant.trans unknown)).symm⟩)
  | undefined mark => exact .undefined mark
  | number related => exact .number (sameNumber_comm related)
  | empty => exact .empty
  | tuple _ _ first rest => exact .tuple first rest

/-- What is the same as another value is a key. -/
theorem Alike.isKey (alike : Alike x y) : x.isKey = true := by
  induction alike with
  | none | text | octets | date | moment | undefined | empty => rfl
  | @number x y related =>
    cases x with
    | truth | whole | real => rfl
    | _ => simp [sameNumber, whole?] at related
  | tuple _ _ first rest => exact Bool.and_eq_true_iff.2 ⟨first, rest⟩

/-- What is the same as a number is so as a number. -/
theorem Alike.of_number (alike : Alike x y) (number : sameNumber x x = true) :
    sameNumber x y = true := by
  cases alike with
  | number related => exact related
  | _ => simp [sameNumber, whole?] at number

theorem Alike.trans (alike : Alike x y) (next : Alike y z) : Alike x z := by
  induction alike generalizing z with
  | none | text | octets | date | undefined | empty =>
    exact next
  | @moment l m related =>
    cases next with
    | @moment _ n later =>
      rw [Moment.same_iff] at related later
      obtain ⟨instant, clock⟩ := related
      obtain ⟨instant', clock'⟩ := later
      refine .moment (Moment.same_iff.2 ⟨instant.trans instant', fun unknown => ?_⟩)
      exact (clock unknown).trans (clock' (instant ▸ unknown))
    | number later => simp [sameNumber, whole?] at later
  | number related =>
    have itself := sameNumber_trans (sameNumber_comm related) related
    exact .number (sameNumber_trans related (next.of_number itself))
  | tuple _ _ first rest =>
    cases next with
    | tuple first' rest' => exact .tuple (first first') (rest rest')
    | number later => simp [sameNumber, whole?] at later

/-- **Being the same key is symmetric and transitive**, whatever is compared. -/
instance : PartialEquivBEq Value where
  symm same := same_of_alike (alike_of_same _ _ same).symm
  trans same later := same_of_alike ((alike_of_same _ _ same).trans (alike_of_same _ _ later))

end Value

end Document

end Hallmark
