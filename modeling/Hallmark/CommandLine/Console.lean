/-
# Hallmark.CommandLine.Console -- lines that are printed

Printing goes line by line and ends before the first line with a character that has no
octets in the encoding of the console; what has been printed stays.  Every encoding has the
characters of ASCII.
-/
import Hallmark.Text.Quoted
import Hallmark.Text.Surrogate

namespace Hallmark.CommandLine

set_option autoImplicit false

structure Console where
  encodes : Char → Bool
  encodes_ascii : ∀ c : Char, c.toNat < 128 → encodes c = true
  /-- What is said of a line that cannot be printed. -/
  complaint : String → String

namespace Console

/-- Of a run of surrogates in a line, where it begins and where it ends. -/
def complaintOn (line : String) : String :=
  let cs := line.toList
  let start := cs.findIdx Text.isStandIn
  let run := (cs.drop start).takeWhile Text.isStandIn
  let reason := ": surrogates not allowed"
  let codec := "'utf-8' codec can't encode character"
  match run with
  | [c] =>
    let escape := String.ofList (Text.hexEscape 'u' 4 (Text.codePoint c))
    codec ++ " '" ++ escape ++ "' in position " ++ toString start ++ reason
  | _ =>
    codec ++ "s in position " ++ toString start ++ "-" ++ toString (start + run.length - 1) ++ reason

theorem isStandIn_of_ascii {c : Char} (small : c.toNat < 128) : Text.isStandIn c = false := by
  have below : ¬ Text.surrogateShift ≤ c.toNat := by
    unfold Text.surrogateShift
    omega
  simp [Text.isStandIn, below]

/-- The console of UTF-8, which has octets for all characters but not for surrogates. -/
def utf8 : Console where
  encodes c := !Text.isStandIn c
  encodes_ascii c small := by rw [isStandIn_of_ascii small]; rfl
  complaint := complaintOn

variable (console : Console)

def canPrint (line : String) : Bool := line.toList.all console.encodes

/-- Prints lines, and says if one of them could not be printed. -/
def print : List String → String × Option String
  | [] => ("", none)
  | line :: rest =>
    if console.canPrint line then (print rest).map (line ++ "\n" ++ ·) id
    else ("", some (console.complaint line))

end Console

end Hallmark.CommandLine
