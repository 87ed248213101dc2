/-
# Hallmark.Text.Utf8 -- strict decoding of UTF-8

The octets are read one at a time.  The first octet of a character fixes how many are
owed and the range of the next one, which rules out overlong forms, surrogates and
code points past the last; every later octet has the full continuation range.  A
failure names the octets that form no character and why.
-/

namespace Hallmark.Text.Utf8

set_option autoImplicit false

inductive Reason where
  | start
  | continuation
  | unexpectedEnd
deriving DecidableEq, Repr

/-- The octets from `start` up to `stop`, the first of which is `octet`, form no character. -/
structure Malformed where
  octet : UInt8
  start : Nat
  stop : Nat
  reason : Reason
deriving DecidableEq, Repr

/-- A character under way: `owed` more octets, the next one between `low` and `high`. -/
structure Pending where
  octet : UInt8
  start : Nat
  owed : Nat
  low : Nat
  high : Nat
  value : Nat

/-- What the first octet of a longer character promises: how many octets are owed, the
range of the next, and the bits it carries. -/
def promise? (b : Nat) : Option (Nat × Nat × Nat × Nat) :=
  if b < 0xC2 then none
  else if b < 0xE0 then some (1, 0x80, 0xBF, b - 0xC0)
  else if b = 0xE0 then some (2, 0xA0, 0xBF, 0)
  else if b = 0xED then some (2, 0x80, 0x9F, 0xD)
  else if b < 0xF0 then some (2, 0x80, 0xBF, b - 0xE0)
  else if b = 0xF0 then some (3, 0x90, 0xBF, 0)
  else if b < 0xF4 then some (3, 0x80, 0xBF, b - 0xF0)
  else if b = 0xF4 then some (3, 0x80, 0x8F, 4)
  else none

def decodeFrom (index : Nat) (pending : Option Pending) (done : List Char) :
    List UInt8 → Except Malformed (List Char)
  | [] =>
    match pending with
    | none => .ok done.reverse
    | some p => .error ⟨p.octet, p.start, index, .unexpectedEnd⟩
  | b :: rest =>
    match pending with
    | none =>
      if b.toNat < 0x80 then decodeFrom (index + 1) none (Char.ofNat b.toNat :: done) rest
      else
        match promise? b.toNat with
        | none => .error ⟨b, index, index + 1, .start⟩
        | some (owed, low, high, value) =>
          decodeFrom (index + 1) (some ⟨b, index, owed, low, high, value⟩) done rest
    | some p =>
      if p.low ≤ b.toNat ∧ b.toNat ≤ p.high then
        let value := p.value * 64 + (b.toNat - 0x80)
        if p.owed = 1 then decodeFrom (index + 1) none (Char.ofNat value :: done) rest
        else
          let p := ⟨p.octet, p.start, p.owed - 1, 0x80, 0xBF, value⟩
          decodeFrom (index + 1) (some p) done rest
      else .error ⟨p.octet, p.start, index, .continuation⟩

def decode (bytes : List UInt8) : Except Malformed (List Char) := decodeFrom 0 none [] bytes

end Hallmark.Text.Utf8
