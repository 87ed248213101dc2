/-
# Hallmark.Text.Surrogate -- code points that are no characters

A text can name a surrogate on its own, by an escape.  No character is one, so each of
them is held by a stand-in, which is `surrogateShift` above it, in a plane where no character
is assigned and none is kept for private use.  The code point of a stand-in is the surrogate
that it stands for, and texts are ordered by their code points.
-/

namespace Hallmark.Text

set_option autoImplicit false

def surrogateShift : Nat := 0xD0000

def isSurrogate (n : Nat) : Bool := 0xD800 ≤ n && n ≤ 0xDFFF

/-- The character that holds a code point. -/
def charOf (n : Nat) : Char := Char.ofNat (if isSurrogate n then n + surrogateShift else n)

def isStandIn (c : Char) : Bool :=
  surrogateShift ≤ c.toNat && isSurrogate (c.toNat - surrogateShift)

/-- The code point that a character holds. -/
def codePoint (c : Char) : Nat := if isStandIn c then c.toNat - surrogateShift else c.toNat

/-- Whether the first text comes before the second. -/
def precedes (s t : String) : Bool :=
  decide (s.toList.map codePoint < t.toList.map codePoint)

end Hallmark.Text
