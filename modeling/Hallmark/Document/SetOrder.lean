/-
# Hallmark.Document.SetOrder -- the order in which a set shows its items

A set seats its items in a row of places, whose number is a power of two, and shows them
place by place.  A whole number asks for the place that is its remainder; if that is taken
it tries the nine places after it, where the row goes on that far, and then a place further
away, until one is free.

Items of other kinds, texts among them, ask for places that no one can tell in advance: the same
items can be shown in another order by the next process.  That order is a `SetOrder`.
-/
import Hallmark.Document.Value

namespace Hallmark.Document

set_option autoImplicit false

/-- The order in which sets show items that are not all whole numbers. -/
structure SetOrder where
  arrange : List Value → List Value
  perm : ∀ items, (arrange items).Perm items

namespace SetOrder

/-- Items are shown as they came. -/
def asGiven : SetOrder := ⟨id, fun _ => .refl _⟩

/-- At least eight places, and more than two for each of five items or more. -/
def placeCount (count : Nat) : Nat := if count ≤ 4 then 8 else Nat.pow 2 (Nat.log2 (2 * count) + 1)

/-- The places that a number tries in a row of some size, from one place on; `spread` is
what is left of the number.  After thirteen tries nothing is left, and from then on the
tries lead through the whole row. -/
def tries (size : Nat) : Nat → Nat → Nat → List Nat
  | 0, _, _ => []
  | more + 1, place, spread =>
    let near := if place + 9 < size then List.range' place 10 else [place]
    let spread := spread / 32
    near ++ tries size more ((5 * place + 1 + spread) % size) spread

/-- A number as it is spread over the places. -/
def spreadOf (n : Int) : Nat :=
  let number := n.tmod (Nat.pow 2 61 - 1)
  ((if number = -1 then -2 else number) % Nat.pow 2 64).toNat

/-- Items with the places that they took. -/
abbrev Row := List (Nat × Value)

/-- Seats an item in the first free place that its number tries. -/
def seat (size : Nat) (row : Row) (item : Int × Value) : Row :=
  let spread := spreadOf item.1
  match (tries size (size + 13) (spread % size) spread).find? fun place =>
      row.all (·.1 ≠ place) with
  | some place => (place, item.2) :: row
  | none => row

end SetOrder

/-- The items of a set in the order in which it shows them. -/
def Value.arranged (order : SetOrder) (items : List Value) : List Value :=
  match items.mapM Value.whole? with
  | some numbers =>
    let row := (numbers.zip items).foldl (SetOrder.seat (SetOrder.placeCount items.length)) []
    (row.mergeSort fun x y => x.1 ≤ y.1).map (·.2)
  | _ => order.arrange items

end Hallmark.Document
