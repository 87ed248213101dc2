/-
# Hallmark.Text.Quoted -- text between quotes

A text is shown between apostrophes, or between double quotes when it holds an
apostrophe and no double quote.  The backslash and the chosen quote are escaped, the
line feed, carriage return and tab have short escapes, and every other character that
cannot be shown as it is becomes `\x`, `\u` or `\U` with two, four or eight digits.
A run of octets is shown in the same way after a `b`.
-/
import Hallmark.Text.Printable
import Hallmark.Text.Surrogate
import Hallmark.Decimal.Shortest

namespace Hallmark.Text

set_option autoImplicit false

def apostrophe : Char := '\x27'

def doubleQuote : Char := '\x22'

def quoteFor (cs : List Char) : Char :=
  if cs.contains apostrophe && !cs.contains doubleQuote then doubleQuote else apostrophe

def hexEscape (letter : Char) (width n : Nat) : List Char :=
  '\\' :: letter :: Decimal.padLeft width (Nat.toDigits 16 n)

/-- The escape of a character that must not stand as it is. -/
def shortEscape? (quote c : Char) : Option (List Char) :=
  if c = quote ∨ c = '\\' then some ['\\', c]
  else if c = '\n' then some ['\\', 'n']
  else if c = '\r' then some ['\\', 'r']
  else if c = '\t' then some ['\\', 't']
  else none

def escapeChar (quote c : Char) : List Char :=
  (shortEscape? quote c).getD <|
    let n := codePoint c
    if isPrintable c then [c]
    else if n < 0x100 then hexEscape 'x' 2 n
    else if n < 0x10000 then hexEscape 'u' 4 n
    else hexEscape 'U' 8 n

def quoted (s : String) : String :=
  let cs := s.toList
  let quote := quoteFor cs
  String.ofList (quote :: cs.flatMap (escapeChar quote) ++ [quote])

def escapeOctet (quote c : Char) : List Char :=
  (shortEscape? quote c).getD <|
    if 0x20 ≤ c.toNat ∧ c.toNat < 0x7F then [c] else hexEscape 'x' 2 c.toNat

def quotedOctets (bytes : List UInt8) : String :=
  let cs := bytes.map fun b => Char.ofNat b.toNat
  let quote := quoteFor cs
  String.ofList ('b' :: quote :: cs.flatMap (escapeOctet quote) ++ [quote])

end Hallmark.Text
