/-
# Hallmark.Text.Resemblance -- how alike two sequences are

The longest run that two sequences share is matched first, then the longest runs on
either side of it, and so on; the resemblance is twice the number of matched items over
the total number.  In a second sequence of two hundred items or more, items that make up
more than about one per cent of it are common: a shared run is found by its other items
and then extended over common ones.
-/

namespace Hallmark.Text

set_option autoImplicit false

namespace Resemblance

variable {α : Type} [BEq α]

/-- An item, and whether it is common in its sequence. -/
abbrev Item (α : Type) := α × Bool

/-- From this length on, a sequence can have common items. -/
def longEnough : Nat := 200

def markCommon (b : List α) : List (Item α) :=
  let most := b.length / 100 + 1
  b.map fun x => (x, decide (longEnough ≤ b.length) && decide (most < b.count x))

/-- A run of `size` items that starts at `first` in one sequence and at `second` in the
other. -/
structure Run where
  first : Nat
  second : Nat
  size : Nat

/-- For each item of `b` the length of the shared run that ends in it and in `x`, given
those lengths for the item before `x`. -/
def extendRuns (x : α) (b : List (Item α)) (before : List Nat) : List Nat :=
  List.zipWith (fun (y, common) n => if !common && x == y then n + 1 else 0) b (0 :: before)

/-- The first longest of the runs that end at place `i` and of `best`. -/
def better (i : Nat) (ends : List Nat) (best : Run) : Run :=
  (ends.foldl (fun (best, j) size =>
    (if best.size < size then ⟨i + 1 - size, j + 1 - size, size⟩ else best, j + 1)) (best, 0)).1

/-- The first longest run without common items. -/
def core (a : List α) (b : List (Item α)) : Run :=
  (a.foldl (fun (best, i, ends) x =>
    let ends := extendRuns x b ends
    (better i ends best, i + 1, ends)) ((⟨0, 0, 0⟩ : Run), 0, b.map fun _ => 0)).1

/-- How many items two sequences share at their front. -/
def sharedFront : List α → List (Item α) → Nat
  | x :: a, (y, _) :: b => if x == y then sharedFront a b + 1 else 0
  | _, _ => 0

/-- A run extended over all shared items on either side. -/
def widen (a : List α) (b : List (Item α)) (r : Run) : Run :=
  let back := sharedFront (a.take r.first).reverse (b.take r.second).reverse
  let front := sharedFront (a.drop (r.first + r.size)) (b.drop (r.second + r.size))
  ⟨r.first - back, r.second - back, back + r.size + front⟩

/-- How many items are matched; `fuel` bounds the number of matched runs. -/
def matchedWithin : Nat → List α → List (Item α) → Nat
  | 0, _, _ => 0
  | fuel + 1, a, b =>
    let r := widen a b (core a b)
    if r.size = 0 then 0
    else
      matchedWithin fuel (a.take r.first) (b.take r.second) + r.size
        + matchedWithin fuel (a.drop (r.first + r.size)) (b.drop (r.second + r.size))

end Resemblance

/-- `matched` of `total` items. -/
structure Likeness where
  matched : Nat
  total : Nat

namespace Likeness

/-- How much of `b` is found in `a`. -/
def of {α : Type} [BEq α] (a b : List α) : Likeness :=
  { matched := Resemblance.matchedWithin (a.length + 1) a (Resemblance.markCommon b)
    total := a.length + b.length }

/-- At least three fifths; two empty sequences are alike. -/
def isClose (l : Likeness) : Bool := l.total = 0 || 3 * l.total ≤ 10 * l.matched

/-- Two empty sequences count as fully alike. -/
def weighed (l : Likeness) : Nat × Nat := if l.total = 0 then (1, 1) else (2 * l.matched, l.total)

/-- Whether `l` is less than `m`. -/
def less (l m : Likeness) : Bool :=
  let (a, b) := l.weighed
  let (c, d) := m.weighed
  a * d < c * b

end Likeness

end Hallmark.Text
