/-
# Hallmark.Document.Value -- what a document can hold

The values that attributes, settings and graphs are made of.  A value is *true* or
empty (`isTrue`); it can serve as a key of a mapping when nothing in it is a list, a
set or a mapping (`isKey`); and two keys are the same (`same`) when they are equal as
numbers, whatever kind of number each is, or equal otherwise.

A collection may hold itself.  It is a `knot` then, and `again` stands for it wherever it
occurs within itself; `opened` puts the knot in the place of each such occurrence, so that
what the collection holds can be taken out of it.
-/
import Hallmark.Decimal.Binary64
import Hallmark.Document.Calendar
import Hallmark.Document.Dictionary

namespace Hallmark.Document

set_option autoImplicit false

open Hallmark.Decimal

/-- The brackets of a list, a tuple and a mapping. -/
inductive Bracket where
  | square
  | round
  | curly
deriving DecidableEq, Repr

inductive Value where
  | none
  | truth (b : Bool)
  | whole (n : Int)
  | real (x : Binary64)
  /-- No number, but the same key as itself, known by a mark. -/
  | undefined (mark : Nat)
  | text (s : String)
  | octets (bytes : List UInt8)
  | list (items : List Value)
  | tuple (items : List Value)
  | set (items : List Value)
  | map (entries : List (Value × Value))
  | date (d : Date)
  | moment (m : Moment)
  /-- A collection that holds itself. -/
  | knot (mark : Nat) (v : Value)
  /-- The knot of a mark, within itself. -/
  | again (mark : Nat) (bracket : Bracket)
deriving Inhabited, Repr

namespace Value

/-! ## Knots -/

mutual

/-- The value with `knotted` in the place of the knot of a mark. -/
def tie (mark : Nat) (knotted : Value) : Value → Value
  | .again m bracket => if m = mark then knotted else .again m bracket
  | .knot m v => if m = mark then .knot m v else .knot m (tie mark knotted v)
  | .list items => .list (tieItems mark knotted items)
  | .tuple items => .tuple (tieItems mark knotted items)
  | .set items => .set (tieItems mark knotted items)
  | .map entries => .map (tieEntries mark knotted entries)
  | v => v

def tieItems (mark : Nat) (knotted : Value) : List Value → List Value
  | [] => []
  | v :: rest => tie mark knotted v :: tieItems mark knotted rest

def tieEntries (mark : Nat) (knotted : Value) : List (Value × Value) → List (Value × Value)
  | [] => []
  | (k, v) :: rest => (k, tie mark knotted v) :: tieEntries mark knotted rest

end

/-- The collection that a knot is; every other value is itself. -/
def opened : Value → Value
  | .knot m v => tie m (.knot m v) v
  | v => v

/-! ## Truth and numbers -/

/-- Nothing, zero and whatever is empty are not true. -/
def isTrue : Value → Bool
  | .none => false
  | .truth b => b
  | .whole n => n != 0
  | .real x => !x.isZero
  | .text s => !s.isEmpty
  | .octets bytes => !bytes.isEmpty
  | .list items => !items.isEmpty
  | .tuple items => !items.isEmpty
  | .set items => !items.isEmpty
  | .map entries => !entries.isEmpty
  | _ => true

/-- The whole number that a number is equal to, the truth values counting as 0 and 1. -/
def whole? : Value → Option Int
  | .truth b => some (if b then 1 else 0)
  | .whole n => some n
  | .real x => x.whole?
  | _ => .none

def sameNumber (x y : Value) : Bool :=
  match x.whole?, y.whole? with
  | some m, some n => m == n
  | _, _ =>
    match x, y with
    | .real a, .real b => a.same b
    | _, _ => false

/-! ## Keys -/

mutual

def isKey : Value → Bool
  | .list _ => false
  | .set _ => false
  | .map _ => false
  | .tuple items => allKeys items
  | .knot _ _ => false
  | .again _ _ => false
  | _ => true

def allKeys : List Value → Bool
  | [] => true
  | v :: rest => isKey v && allKeys rest

end

mutual

/-- Whether two keys are the same key; lists, sets and mappings are never keys. -/
def same : Value → Value → Bool
  | .none, .none => true
  | .text a, .text b => a == b
  | .octets a, .octets b => a == b
  | .date a, .date b => a == b
  | .moment a, .moment b => a.same b
  | .undefined a, .undefined b => a == b
  | .tuple xs, .tuple ys => sameItems xs ys
  | x, y => sameNumber x y

def sameItems : List Value → List Value → Bool
  | [], [] => true
  | x :: xs, y :: ys => same x y && sameItems xs ys
  | _, _ => false

end

instance : BEq Value := ⟨same⟩

/-- Only a text is the same key as a text. -/
@[simp] theorem beq_text_iff {v : Value} {s : String} : (v == .text s) = true ↔ v = .text s := by
  change same v (.text s) = true ↔ v = .text s
  cases v with
  | text written => simp [same]
  | _ => simp [same, sameNumber, whole?]

@[simp] theorem text_beq_iff {v : Value} {s : String} : (Value.text s == v) = true ↔ v = .text s := by
  change same (.text s) v = true ↔ v = .text s
  cases v with
  | text written => simpa [same] using eq_comm
  | _ => simp [same, sameNumber, whole?]

theorem sharp_text (s : String) : Dictionary.Sharp (Value.text s) where
  beq_iff _ := beq_text_iff
  beq_self_iff _ := text_beq_iff

/-! ## What a value holds -/

/-- The entries of a mapping. -/
def entries? (v : Value) : Option (Dictionary Value Value) :=
  match v.opened with
  | .map entries => some entries
  | _ => .none

def text? : Value → Option String
  | .text s => some s
  | _ => .none

/-- What a value holds when it is walked through: the characters of a text, the numbers
of a run of octets, the items of a collection, the keys of a mapping. -/
def items? (v : Value) : Option (List Value) :=
  match v.opened with
  | .text s => some (s.toList.map fun c => .text (String.singleton c))
  | .octets bytes => some (bytes.map fun b => .whole b.toNat)
  | .list items => some items
  | .tuple items => some items
  | .set items => some items
  | .map entries => some (entries.map (·.1))
  | _ => .none

/-- A list that is handed out as a tuple. -/
def settled (v : Value) : Value :=
  match v.opened with
  | .list items => .tuple items
  | _ => v

end Value

/-- Named attributes in order. -/
abbrev Attributes := Dictionary Value Value

end Hallmark.Document
