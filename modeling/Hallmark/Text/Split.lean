/-
# Hallmark.Text.Split -- pieces between separators, and lines

A text with `n` separators has `n + 1` pieces, some of which may be empty.  A line ends
with a break or with the text; no empty line stands behind the last break.
-/

namespace Hallmark.Text

set_option autoImplicit false

/-- Adds a character in front of the pieces of what follows it. -/
def consPiece (separator c : Char) (pieces : List (List Char)) : List (List Char) :=
  if c = separator then [] :: pieces
  else
    match pieces with
    | piece :: rest => (c :: piece) :: rest
    | [] => [[c]]

def pieces (separator : Char) (cs : List Char) : List (List Char) :=
  cs.foldr (consPiece separator) [[]]

theorem consPiece_ne_nil (separator c : Char) (ps : List (List Char)) :
    consPiece separator c ps ≠ [] := by
  unfold consPiece
  split
  · exact List.cons_ne_nil _ _
  · split <;> exact List.cons_ne_nil _ _

theorem pieces_ne_nil (separator : Char) (cs : List Char) : pieces separator cs ≠ [] := by
  cases cs with
  | nil => exact List.cons_ne_nil _ _
  | cons c rest => exact consPiece_ne_nil _ _ _

theorem pieces_cons (separator c : Char) (rest : List Char) :
    pieces separator (c :: rest) = consPiece separator c (pieces separator rest) := rfl

/-- The pieces with the separator put back between them are the text. -/
theorem intercalate_pieces (separator : Char) (cs : List Char) :
    [separator].intercalate (pieces separator cs) = cs := by
  induction cs with
  | nil => rfl
  | cons c rest ih =>
    rw [pieces_cons]
    obtain ⟨piece, others, here⟩ := List.exists_cons_of_ne_nil (pieces_ne_nil separator rest)
    rw [here] at ih ⊢
    unfold consPiece
    by_cases same : c = separator
    · simpa [same, List.intercalate] using ih
    · cases others with
      | nil => simpa [same, List.intercalate] using ih
      | cons next more => simpa [same, List.intercalate] using ih

theorem not_mem_of_mem_pieces {separator : Char} {cs piece : List Char}
    (member : piece ∈ pieces separator cs) : separator ∉ piece := by
  induction cs generalizing piece with
  | nil =>
    rw [List.mem_singleton.1 member]
    exact List.not_mem_nil
  | cons c rest ih =>
    obtain ⟨first, others, here⟩ := List.exists_cons_of_ne_nil (pieces_ne_nil separator rest)
    rw [pieces_cons, here, consPiece] at member
    rw [here] at ih
    by_cases same : c = separator
    · rw [if_pos same, List.mem_cons] at member
      rcases member with rfl | later
      · exact List.not_mem_nil
      · exact ih later
    · rw [if_neg same, List.mem_cons] at member
      rcases member with rfl | later
      · exact List.not_mem_cons_of_ne_of_not_mem (Ne.symm same) (ih List.mem_cons_self)
      · exact ih (List.mem_cons_of_mem _ later)

theorem pieces_of_not_mem {separator : Char} {cs : List Char} (plain : separator ∉ cs) :
    pieces separator cs = [cs] := by
  induction cs with
  | nil => rfl
  | cons c rest ih =>
    rw [List.mem_cons, not_or] at plain
    rw [pieces_cons, ih plain.2, consPiece, if_neg (Ne.symm plain.1)]

theorem pieces_append {separator : Char} {before : List Char} (plain : separator ∉ before)
    (after : List Char) :
    pieces separator (before ++ separator :: after) = before :: pieces separator after := by
  induction before with
  | nil => exact if_pos rfl
  | cons c rest ih =>
    rw [List.mem_cons, not_or] at plain
    rw [List.cons_append, pieces_cons, ih plain.2, consPiece, if_neg (Ne.symm plain.1)]

/-- No other texts without a separator come to a text when separators are put between them. -/
theorem pieces_intercalate {separator : Char} {ps : List (List Char)} (some : ps ≠ [])
    (plain : ∀ piece ∈ ps, separator ∉ piece) :
    pieces separator ([separator].intercalate ps) = ps := by
  induction ps with
  | nil => exact absurd rfl some
  | cons first rest ih =>
    obtain ⟨plain_first, plain_rest⟩ := List.forall_mem_cons.1 plain
    cases rest with
    | nil => rw [List.intercalate_singleton, pieces_of_not_mem plain_first]
    | cons second others =>
      rw [List.intercalate_cons_cons, List.append_assoc, List.singleton_append,
        pieces_append plain_first, ih (List.cons_ne_nil _ _) plain_rest]

/-- The text before the first separator, and the text after it if there is one. -/
def cut (separator : Char) (cs : List Char) : List Char × Option (List Char) :=
  (cs.takeWhile (· ≠ separator), (cs.dropWhile (· ≠ separator)).tail?)

theorem cut_cons (separator c : Char) (cs : List Char) :
    cut separator (c :: cs) =
      if c = separator then ([], some cs)
      else (c :: (cut separator cs).1, (cut separator cs).2) := by
  by_cases same : c = separator <;> simp [cut, same]

/-- What is cut apart at a separator is the text with that separator between. -/
theorem append_of_cut {separator : Char} {cs before after : List Char}
    (parts : cut separator cs = (before, some after)) : before ++ separator :: after = cs := by
  induction cs generalizing before with
  | nil => cases parts
  | cons c rest ih =>
    rw [cut_cons] at parts
    split at parts
    · rename_i same
      cases parts
      rw [same, List.nil_append]
    · obtain ⟨rfl, later⟩ := Prod.mk.inj parts
      rw [List.cons_append, ih (Prod.ext rfl later)]

theorem eq_of_cut {separator : Char} {cs before : List Char}
    (whole : cut separator cs = (before, none)) : before = cs := by
  induction cs generalizing before with
  | nil => cases whole; rfl
  | cons c rest ih =>
    rw [cut_cons] at whole
    split at whole
    · cases whole
    · obtain ⟨rfl, later⟩ := Prod.mk.inj whole
      exact congrArg (c :: ·) (ih (Prod.ext rfl later))

theorem not_mem_cut (separator : Char) (cs : List Char) : separator ∉ (cut separator cs).1 := by
  induction cs with
  | nil => exact List.not_mem_nil
  | cons c rest ih =>
    rw [cut_cons]
    split
    · exact List.not_mem_nil
    · rename_i different
      exact List.not_mem_cons_of_ne_of_not_mem (Ne.symm different) ih

theorem cut_of_not_mem {separator : Char} {cs : List Char} (plain : separator ∉ cs) :
    cut separator cs = (cs, none) := by
  induction cs with
  | nil => rfl
  | cons c rest ih =>
    rw [List.mem_cons, not_or] at plain
    rw [cut_cons, if_neg (Ne.symm plain.1), ih plain.2]

theorem cut_append {separator : Char} {before : List Char} (plain : separator ∉ before)
    (after : List Char) : cut separator (before ++ separator :: after) = (before, some after) := by
  induction before with
  | nil => rw [List.nil_append, cut_cons, if_pos rfl]
  | cons c rest ih =>
    rw [List.mem_cons, not_or] at plain
    rw [List.cons_append, cut_cons, if_neg (Ne.symm plain.1), ih plain.2]

/-! ## Lines -/

def isLineBreak (c : Char) : Bool :=
  c = '\n' || c = '\r' || c = '\x0b' || c = '\x0c' || c = '\x1c' || c = '\x1d' || c = '\x1e'
    || c = '\x85' || c = '\u2028' || c = '\u2029'

/-- The lines of a text behind what is there of the first, last character first. -/
def linesFrom (line : List Char) : List Char → List (List Char)
  | [] => if line.isEmpty then [] else [line.reverse]
  | '\r' :: '\n' :: rest => line.reverse :: linesFrom [] rest
  | c :: rest =>
    if isLineBreak c then line.reverse :: linesFrom [] rest else linesFrom (c :: line) rest

def lines (cs : List Char) : List (List Char) := linesFrom [] cs

end Hallmark.Text
