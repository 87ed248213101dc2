/-
# Hallmark.Decimal.Binary64 -- double precision numbers as exact values

A number is a sign, a mantissa below `2^53` and a power of two, an infinity, or no
number.  `nearest` rounds an exact ratio to the closest representable number, a tie
going to the even mantissa; reading decimal text is one such rounding.
-/
import Hallmark.Text.Whole

namespace Hallmark.Decimal

set_option autoImplicit false

inductive Binary64 where
  | nan
  | infinite (negative : Bool)
  | finite (negative : Bool) (mantissa : Nat) (exponent : Int)
deriving DecidableEq, Repr

namespace Binary64

def leastExponent : Int := -1074

def greatestExponent : Int := 971

def zero (negative : Bool) : Binary64 := .finite negative 0 leastExponent

def isZero : Binary64 → Bool
  | .finite _ m _ => m == 0
  | _ => false

/-- The ratio `num / den / 2^e` as a numerator and a denominator. -/
def scaled (num den : Nat) (e : Int) : Nat × Nat :=
  if 0 ≤ e then (num, den * Nat.pow 2 e.toNat) else (num * Nat.pow 2 (-e).toNat, den)

/-- The quotient rounded to a whole number, a half going to the even neighbour. -/
def roundHalfEven (num den : Nat) : Nat :=
  let q := num / den
  let twice := 2 * (num % den)
  if twice < den then q
  else if den < twice then q + 1
  else if q % 2 = 0 then q else q + 1

def nearest (negative : Bool) (num den : Nat) : Binary64 :=
  if num = 0 then zero negative
  else
    let guess : Int := (num.log2 : Int) - (den.log2 : Int) - 52
    let (n, d) := scaled num den guess
    let exponent := max leastExponent (if n / d < Nat.pow 2 52 then guess - 1 else guess)
    let (n, d) := scaled num den exponent
    let mantissa := roundHalfEven n d
    let (mantissa, exponent) :=
      if mantissa = Nat.pow 2 53 then (Nat.pow 2 52, exponent + 1) else (mantissa, exponent)
    if greatestExponent < exponent then .infinite negative
    else .finite negative mantissa exponent

/-- The number closest to `digits * 10^power`. -/
def ofDecimal (negative : Bool) (digits : Nat) (power : Int) : Binary64 :=
  let size : Int := (Nat.toDigits 10 digits).length + power
  if digits = 0 ∨ size < -400 then zero negative
  else if 400 < size then .infinite negative
  else if 0 ≤ power then nearest negative (digits * Nat.pow 10 power.toNat) 1
  else nearest negative digits (Nat.pow 10 (-power).toNat)

/-- The whole number that this is, if it is one. -/
def whole? : Binary64 → Option Int
  | .finite negative m e =>
    let signed (n : Nat) : Int := if negative then -n else n
    if 0 ≤ e then some (signed (m * Nat.pow 2 e.toNat))
    else if m % Nat.pow 2 (-e).toNat = 0 then some (signed (m / Nat.pow 2 (-e).toNat))
    else none
  | _ => none

/-- Numeric equality: the two zeros are equal and `nan` differs from itself. -/
def same (x y : Binary64) : Bool :=
  match x, y with
  | .nan, _ => false
  | x, y => (x.isZero && y.isZero) || x == y

def negate : Binary64 → Binary64
  | .nan => .nan
  | .infinite s => .infinite !s
  | .finite s m e => .finite (!s) m e

/-- The whole number `n` in units of `2^e`, rounded. -/
def ofUnits (n : Int) (e : Int) : Binary64 :=
  if 0 ≤ e then nearest (n < 0) (n.natAbs * Nat.pow 2 e.toNat) 1
  else nearest (n < 0) n.natAbs (Nat.pow 2 (-e).toNat)

/-- A sum that is zero is negative only if both numbers are. -/
def add : Binary64 → Binary64 → Binary64
  | .nan, _ => .nan
  | _, .nan => .nan
  | .infinite s, .infinite t => if s = t then .infinite s else .nan
  | .infinite s, _ => .infinite s
  | _, .infinite t => .infinite t
  | .finite s m e, .finite t n f =>
    let low := min e f
    let units (negative : Bool) (mantissa : Nat) (exponent : Int) : Int :=
      let size : Int := mantissa * Nat.pow 2 (exponent - low).toNat
      if negative then -size else size
    let total := units s m e + units t n f
    if total = 0 then zero (s && t) else ofUnits total low

def mul : Binary64 → Binary64 → Binary64
  | .nan, _ => .nan
  | _, .nan => .nan
  | .finite s m e, .finite t n f =>
    if m * n = 0 then zero (s != t)
    else ofUnits (if s = t then m * n else -(m * n)) (e + f)
  | .infinite s, .infinite t => .infinite (s != t)
  | .infinite s, .finite t n _ => if n = 0 then .nan else .infinite (s != t)
  | .finite s m _, .infinite t => if m = 0 then .nan else .infinite (s != t)

/-- A whole number, unless it is too large. -/
def ofNat? (n : Nat) : Option Binary64 :=
  match nearest false n 1 with
  | .infinite _ => none
  | x => some x

/-- The digits at the front, `_` allowed between two of them, and what follows. -/
def spanDigits (cs : List Char) : Option (List Nat × List Char) :=
  let run := cs.takeWhile fun c => c = '_' || (Text.digitValue? c).isSome
  if run.isEmpty then some ([], cs)
  else (Text.readDigits 10 false run).map fun ds => (ds, cs.drop run.length)

def readExponent? : List Char → Option Int
  | [] => some 0
  | c :: rest =>
    if c = 'e' ∨ c = 'E' then
      let (negative, body) := Text.takeSign rest
      (Text.readDigits 10 false body).map fun ds =>
        let n : Int := Text.ofDigits 10 ds
        if negative then -n else n
    else none

/-- Reads decimal notation with an optional point and exponent, or the words for the
infinities and for no number. -/
def read? (cs : List Char) : Option Binary64 := do
  let (negative, body) := Text.takeSign (Text.trimMargin cs)
  let word := body.map Char.toLower
  if word = "inf".toList ∨ word = "infinity".toList then return .infinite negative
  if word = "nan".toList then return .nan
  let (integral, rest) ← spanDigits body
  let (fraction, rest) ← match rest with
    | '.' :: rest => spanDigits rest
    | rest => some ([], rest)
  if integral.isEmpty ∧ fraction.isEmpty then none
  let exponent ← readExponent? rest
  return ofDecimal negative (Text.ofDigits 10 (integral ++ fraction)) (exponent - fraction.length)

end Binary64

end Hallmark.Decimal
