/-
# Hallmark.Query.Group -- bracketed groups in a text

A group is a `[`, characters that are no brackets, and a `]`.  Groups do not nest: a
further `[` abandons the one before it, and text outside groups is passed over.
`groups` reads from left to right, holding the body of the group that is open.
-/

namespace Hallmark.Query

set_option autoImplicit false

/-- The body of the open group and the bodies of the closed ones, all reversed. -/
structure Grouping where
  body : Option (List Char)
  closed : List (List Char)

namespace Grouping

def start : Grouping := ⟨none, []⟩

def read (g : Grouping) (c : Char) : Grouping :=
  if c = '[' then ⟨some [], g.closed⟩
  else if c = ']' then ⟨none, (g.body.map List.reverse).toList ++ g.closed⟩
  else ⟨g.body.map (c :: ·), g.closed⟩

end Grouping

/-- The bodies of the groups of a text, from left to right. -/
def groups (cs : List Char) : List (List Char) :=
  (cs.foldl Grouping.read Grouping.start).closed.reverse

/-- Where reading starts: a negative position counts from the end. -/
def startOf (length : Nat) (position : Int) : Nat :=
  if position < 0 then (length + position).toNat else position.toNat

/-- The groups that start at or after a position. -/
def groupsFrom (position : Int) (cs : List Char) : List (List Char) :=
  groups (cs.drop (startOf cs.length position))

end Hallmark.Query
