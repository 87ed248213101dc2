/-
# Hallmark.Decimal.Shortest -- the fewest digits that read back

A finite number is written with the fewest significant digits that read back as the
same number, and among those with the digits nearest to it.  `Grid` holds the number
and the ends of the interval of reals that round to it over one denominator; on each
decimal grid, from one digit to seventeen, the two neighbours of the number are
tested against that interval.

`Style` fixes the notation: which exponents are written positionally and how an
exponent is written.
-/
import Hallmark.Decimal.Binary64

namespace Hallmark.Decimal

set_option autoImplicit false

/-- `low`, `value` and `high` over the denominator `unit`; the ends of the interval
belong to it exactly when `closed`. -/
structure Grid where
  low : Nat
  value : Nat
  high : Nat
  unit : Nat
  closed : Bool

def Grid.ofBinary (mantissa : Nat) (exponent : Int) : Grid :=
  let weight := Nat.pow 2 exponent.toNat
  let below := if mantissa = Nat.pow 2 52 ∧ Binary64.leastExponent < exponent then 1 else 2
  { low := (4 * mantissa - below) * weight
    value := 4 * mantissa * weight
    high := (4 * mantissa + 2) * weight
    unit := 4 * Nat.pow 2 (-exponent).toNat
    closed := mantissa % 2 = 0 }

/-- Whether `digits * 10^power` reads back as the number. -/
def Grid.admits (g : Grid) (digits : Nat) (power : Int) : Bool :=
  let point := digits * Nat.pow 10 power.toNat * g.unit
  let scale := Nat.pow 10 (-power).toNat
  if g.closed then g.low * scale ≤ point && point ≤ g.high * scale
  else g.low * scale < point && point < g.high * scale

/-- The exponent of the leading decimal digit. -/
def Grid.magnitude (g : Grid) : Int :=
  if g.unit ≤ g.value then (Nat.toDigits 10 (g.value / g.unit)).length - 1
  else -((Nat.toDigits 10 ((g.unit - 1) / g.value)).length : Int)

/-- Of the two neighbours on the grid of `10^power` the nearest that reads back. -/
def Grid.neighbour? (g : Grid) (power : Int) : Option Nat :=
  let num := g.value * Nat.pow 10 (-power).toNat
  let den := g.unit * Nat.pow 10 power.toNat
  let down := num / den
  match g.admits down power, g.admits (down + 1) power with
  | true, true =>
    let twice := 2 * (num % den)
    if twice < den ∨ (twice = den ∧ down % 2 = 0) then some down else some (down + 1)
  | true, false => some down
  | false, true => some (down + 1)
  | false, false => none

/-- Tries grids of `count`, `count + 1`, ... digits; gives the digits and the power of
the first grid with a hit. -/
def Grid.search (g : Grid) (top : Int) : Nat → Nat → Nat × Int
  | 0, _ => (g.value / g.unit, 0)
  | tries + 1, count =>
    let power := top - count + 1
    match g.neighbour? power with
    | some digits => (digits, power)
    | none => Grid.search g top tries (count + 1)

def Grid.shortest (g : Grid) : Nat × Int := g.search g.magnitude 17 1

/-- How a decimal number is laid out: positionally while the exponent of its leading
digit is in `[positionalFrom, positionalBelow)`, else with an exponent of at least
`exponentDigits` digits. -/
structure Style where
  positionalFrom : Int
  positionalBelow : Int
  exponentDigits : Nat

def padLeft (width : Nat) (digits : List Char) : List Char :=
  List.replicate (width - digits.length) '0' ++ digits

def dropTrailingZeros (digits : List Char) : List Char :=
  match (digits.reverse.dropWhile (· = '0')).reverse with
  | [] => ['0']
  | kept => kept

/-- `digits` with the point after the first `point` of them; a fraction is always shown. -/
def positional (digits : List Char) (point : Int) : List Char :=
  if point ≤ 0 then '0' :: '.' :: (List.replicate (-point).toNat '0' ++ digits)
  else
    let n := point.toNat
    if digits.length ≤ n then digits ++ List.replicate (n - digits.length) '0' ++ ['.', '0']
    else digits.take n ++ '.' :: digits.drop n

def scientific (style : Style) (digits : List Char) (exponent : Int) : List Char :=
  let lead := match digits with
    | [d] => [d]
    | d :: rest => d :: '.' :: rest
    | [] => []
  let size := padLeft style.exponentDigits (Nat.toDigits 10 exponent.natAbs)
  lead ++ 'e' :: (if exponent < 0 then '-' else '+') :: size

def Style.layOut (style : Style) (digits : Nat) (power : Int) : List Char :=
  let shown := Nat.toDigits 10 digits
  let point : Int := shown.length + power
  let kept := dropTrailingZeros shown
  if style.positionalFrom ≤ point - 1 ∧ point - 1 < style.positionalBelow then
    positional kept point
  else scientific style kept (point - 1)

def Style.render (style : Style) : Binary64 → String
  | .nan => "nan"
  | .infinite negative => if negative then "-inf" else "inf"
  | .finite negative mantissa exponent =>
    let magnitude :=
      if mantissa = 0 then positional ['0'] 1
      else
        let (digits, power) := (Grid.ofBinary mantissa exponent).shortest
        style.layOut digits power
    String.ofList (if negative then '-' :: magnitude else magnitude)

end Hallmark.Decimal
