/-
# Hallmark.Text.Whole -- reading whole numbers

A whole number is written as an optional sign and digits of any script, with a
single `_` allowed between two digits and white space allowed around it.  The four
information separators are blank but are not white space around a number.  Bases
two, eight and sixteen may announce themselves (`0b`, `0o`, `0x`); base ten reads
at most `longestDecimal` digits.
-/
import Hallmark.Text.Blank
import Hallmark.Text.Digit

namespace Hallmark.Text

set_option autoImplicit false

/-- White space that may surround a number. -/
def isMargin (c : Char) : Bool := isBlank c && !(0x1C ≤ c.toNat && c.toNat ≤ 0x1F)

def trimMargin (cs : List Char) : List Char :=
  ((cs.dropWhile isMargin).reverse.dropWhile isMargin).reverse

def longestDecimal : Nat := 4300

def letterValue? (c : Char) : Option Nat :=
  if 'a' ≤ c ∧ c ≤ 'z' then some (c.toNat - 'a'.toNat + 10)
  else if 'A' ≤ c ∧ c ≤ 'Z' then some (c.toNat - 'A'.toNat + 10)
  else none

def digitIn? (base : Nat) (c : Char) : Option Nat :=
  (digitValue? c <|> letterValue? c).filter (· < base)

/-- The digits of a numeral; `afterDigit` says whether a `_` may come next. -/
def readDigits (base : Nat) : Bool → List Char → Option (List Nat)
  | afterDigit, [] => if afterDigit then some [] else none
  | afterDigit, c :: rest =>
    if c = '_' then
      if afterDigit then readDigits base false rest else none
    else
      (digitIn? base c).bind fun d => (readDigits base true rest).map (d :: ·)

def ofDigits (base : Nat) (digits : List Nat) : Nat :=
  digits.foldl (fun total d => total * base + d) 0

/-- The letter that announces a base. -/
def baseLetter? : Nat → Option Char
  | 2 => some 'b'
  | 8 => some 'o'
  | 16 => some 'x'
  | _ => none

/-- Without the announcement of the base, and without the `_` that may follow it. -/
def dropAnnouncement (base : Nat) (cs : List Char) : List Char :=
  match baseLetter? base, cs with
  | some letter, '0' :: c :: rest =>
    if c = letter ∨ c = letter.toUpper then
      match rest with
      | '_' :: rest => rest
      | rest => rest
    else cs
  | _, _ => cs

/-- A leading sign (`true` for minus) and the rest. -/
def takeSign : List Char → Bool × List Char
  | '-' :: rest => (true, rest)
  | '+' :: rest => (false, rest)
  | cs => (false, cs)

/-- Why a text is no whole number. -/
inductive NotWhole where
  | malformed
  | tooLong (digits : Nat)
deriving DecidableEq, Repr

/-- Too many digits are told even if something else follows them. -/
def readWhole (base : Nat) (cs : List Char) : Except NotWhole Int := do
  let (negative, body) := takeSign (trimMargin cs)
  let body := dropAnnouncement base body
  let run := body.takeWhile fun c => c = '_' || (digitIn? base c).isSome
  match readDigits base false run with
  | none => throw .malformed
  | some digits =>
    if base = 10 ∧ longestDecimal < digits.length then throw (.tooLong digits.length)
    if run.length ≠ body.length then throw .malformed
    let magnitude : Int := ofDigits base digits
    return if negative then -magnitude else magnitude

def readWhole? (base : Nat) (cs : List Char) : Option Int := (readWhole base cs).toOption

end Hallmark.Text
