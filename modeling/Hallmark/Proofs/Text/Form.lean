/-
# Hallmark.Proofs.Text.Form -- trimmed texts and texts in upper case

What is left of a text when it is trimmed is told by `Trimmed`, without saying how it is found:
only blanks are missing, at either end, and none is left there (`trimmed_iff`).

In upper case no small letter of ASCII is left, and a text of ASCII becomes the one that
`Char.toUpper` makes of it.
-/
import Hallmark.Text.Blank
import Hallmark.Text.Upper
import Mathlib.Data.List.Forall2

namespace Hallmark.Text

set_option autoImplicit false

/-! ## Trimming -/

/-- What is left of some characters without the blanks at either end. -/
structure Trimmed (cs kept : List Char) : Prop where
  within : ∃ front back, cs = front ++ kept ++ back ∧
    (∀ c ∈ front, isBlank c = true) ∧ ∀ c ∈ back, isBlank c = true
  first : ∀ c ∈ kept.head?, isBlank c = false
  last : ∀ c ∈ kept.getLast?, isBlank c = false

theorem not_isBlank_head_dropWhile (cs : List Char) :
    ∀ c ∈ (cs.dropWhile isBlank).head?, isBlank c = false := by
  intro c first
  have stopped := List.head?_dropWhile_not isBlank cs
  rw [Option.mem_def.1 first] at stopped
  exact stopped

theorem isBlank_of_mem_takeWhile {cs : List Char} : ∀ c ∈ cs.takeWhile isBlank, isBlank c = true :=
  fun _ member => List.all_eq_true.1 List.all_takeWhile _ member

theorem trimmed_trim (cs : List Char) : Trimmed cs (trim cs) := by
  have front : cs.takeWhile isBlank ++ cs.dropWhile isBlank = cs := List.takeWhile_append_dropWhile
  have back : trim cs ++ ((cs.dropWhile isBlank).reverse.takeWhile isBlank).reverse =
      cs.dropWhile isBlank := by
    rw [trim, ← List.reverse_append, List.takeWhile_append_dropWhile, List.reverse_reverse]
  have whole : cs = cs.takeWhile isBlank ++ trim cs ++
      ((cs.dropWhile isBlank).reverse.takeWhile isBlank).reverse := by
    rw [List.append_assoc, back, front]
  refine ⟨⟨_, _, whole, isBlank_of_mem_takeWhile, fun c member => ?_⟩, ?_, ?_⟩
  · exact isBlank_of_mem_takeWhile c (List.mem_reverse.1 member)
  · -- what is left begins where the characters without their first blanks begin
    intro c first
    refine not_isBlank_head_dropWhile cs c ?_
    rw [← back, List.head?_append, Option.mem_def.1 first]
    rfl
  · intro c last
    rw [trim, List.getLast?_reverse] at last
    exact not_isBlank_head_dropWhile _ c last

/-- Behind blanks nothing is dropped of what does not begin with one. -/
theorem dropWhile_isBlank_append {front rest : List Char} (blank : ∀ c ∈ front, isBlank c = true)
    (first : ∀ c ∈ rest.head?, isBlank c = false) : (front ++ rest).dropWhile isBlank = rest := by
  rw [List.dropWhile_append_of_pos blank]
  cases rest with
  | nil => rfl
  | cons c others => exact List.dropWhile_cons_of_neg (by simp [first c rfl])

theorem Trimmed.eq {cs kept : List Char} (trimmed : Trimmed cs kept) : kept = trim cs := by
  obtain ⟨⟨front, back, rfl, front_blank, back_blank⟩, first, last⟩ := trimmed
  have back_blank : ∀ c ∈ back.reverse, isBlank c = true :=
    fun c member => back_blank c (List.mem_reverse.1 member)
  cases kept with
  | nil =>
    have forward : ∀ c ∈ back, isBlank c = true :=
      fun c member => back_blank c (List.mem_reverse.2 member)
    have dropped : (front ++ back ++ []).dropWhile isBlank = [] :=
      dropWhile_isBlank_append (List.forall_mem_append.2 ⟨front_blank, forward⟩) nofun
    rw [List.append_nil] at dropped
    rw [trim, List.append_nil, dropped]
    rfl
  | cons c rest =>
    have dropped : (front ++ (c :: rest ++ back)).dropWhile isBlank = c :: rest ++ back :=
      dropWhile_isBlank_append front_blank first
    have last_first : ∀ d ∈ (c :: rest).reverse.head?, isBlank d = false := by
      rw [List.head?_reverse]
      exact last
    rw [trim, List.append_assoc, dropped, List.reverse_append,
      dropWhile_isBlank_append back_blank last_first, List.reverse_reverse]

/-- Trimming leaves what can be left. -/
theorem trimmed_iff {cs kept : List Char} : Trimmed cs kept ↔ kept = trim cs :=
  ⟨Trimmed.eq, fun same => same ▸ trimmed_trim cs⟩

theorem forall₂_trimmed_iff {pieces kept : List (List Char)} :
    List.Forall₂ Trimmed pieces kept ↔ kept = pieces.map trim := by
  constructor
  · intro trimmed
    induction trimmed with
    | nil => rfl
    | cons first _ ih => rw [List.map_cons, ← first.eq, ih]
  · rintro rfl
    induction pieces with
    | nil => exact .nil
    | cons piece rest ih => exact .cons (trimmed_trim piece) ih

/-! ## Upper case -/

/-- A small letter of ASCII. -/
def IsSmall (n : Nat) : Prop := 0x61 ≤ n ∧ n ≤ 0x7A

instance (n : Nat) : Decidable (IsSmall n) := inferInstanceAs (Decidable (_ ∧ _))

theorem not_isSmall_ofNat {n : Nat} (other : ¬ IsSmall n) : ¬ IsSmall (Char.ofNat n).toNat := by
  by_cases valid : n.isValidChar
  · have same : Char.ofNat n = Char.ofNatAux n valid := dif_pos valid
    rw [same]
    exact other
  · have replaced : Char.ofNat n = '\x00' := dif_neg valid
    rw [replaced]
    decide

theorem not_isSmall_expansions :
    ∀ e ∈ expansions, ∀ n ∈ e.2, ¬ IsSmall n := by decide +kernel

/-- A run of letters moves to one side of the small letters of ASCII. -/
theorem shifts_beside : ∀ s ∈ shifts, s.last + s.distance < 0x61 ∨ 0x7A < s.first + s.distance := by
  decide +kernel

theorem not_isSmall_upperChar {c d : Char} (member : d ∈ upperChar c) : ¬ IsSmall d.toNat := by
  unfold upperChar at member
  dsimp only at member
  split at member
  · rename_i parts found
    obtain ⟨n, part, rfl⟩ := List.mem_map.1 member
    obtain ⟨before, after, listed, -⟩ := List.lookup_eq_some_iff.1 found
    have expanded : (c.toNat, parts) ∈ expansions := listed ▸ List.mem_append_right _ (.head _)
    exact not_isSmall_ofNat (not_isSmall_expansions _ expanded n part)
  · split at member
    · rename_i s found
      obtain rfl := List.mem_singleton.1 member
      have covered := List.find?_some found
      have beside := shifts_beside s (List.mem_of_find?_eq_some found)
      simp only [CaseShift.covers, Bool.and_eq_true, decide_eq_true_eq] at covered
      refine not_isSmall_ofNat ?_
      unfold IsSmall
      omega
    · rename_i uncovered
      obtain rfl := List.mem_singleton.1 member
      -- the first run is that of the small letters
      intro small
      have covers : CaseShift.covers ⟨0x61, 0x7A, 1, -32⟩ d.toNat = true := by
        obtain ⟨least, most⟩ := small
        simp [CaseShift.covers, least, most, Nat.mod_one]
      exact absurd covers (List.find?_eq_none.1 uncovered _ (.head _))

/-- No small letter is left in upper case. -/
theorem not_isSmall_upper {s : String} {c : Char} (member : c ∈ (upper s).toList) :
    ¬ IsSmall c.toNat := by
  rw [upper, String.toList_ofList] at member
  obtain ⟨d, -, raised⟩ := List.mem_flatMap.1 member
  exact not_isSmall_upperChar raised

theorem upperChar_ascii : ∀ n < 128, upperChar (Char.ofNat n) = [(Char.ofNat n).toUpper] := by
  decide +kernel

/-- Of ASCII only the small letters change. -/
theorem upper_ascii {s : String} (ascii : ∀ c ∈ s.toList, c.toNat < 128) :
    upper s = s.map Char.toUpper := by
  have raised : ∀ cs : List Char, (∀ c ∈ cs, c.toNat < 128) →
      cs.flatMap upperChar = cs.map Char.toUpper := by
    intro cs small
    induction cs with
    | nil => rfl
    | cons c rest ih =>
      obtain ⟨first, others⟩ := List.forall_mem_cons.1 small
      have here := upperChar_ascii c.toNat first
      rw [Char.ofNat_toNat] at here
      rw [List.flatMap_cons, here, ih others]
      rfl
  rw [upper, raised _ ascii, String.map_eq_internal]

end Hallmark.Text
