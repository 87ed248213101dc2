/-
# Hallmark.CommandLine.Grammar -- what a command accepts, and its help page

A command has switches and either operands or further commands.  A switch has a long
form, maybe a short one, and maybe a value.  The help page names everything that is
accepted; explanations stand in a column of their own and are wrapped to its width.
-/
import Hallmark.Decimal.Shortest

namespace Hallmark.CommandLine

set_option autoImplicit false

/-- What a switch does as soon as it is read. -/
inductive Effect where
  | showHelp
  | showVersion
  | note
deriving DecidableEq, Repr

structure Switch where
  short : Option Char
  long : String
  /-- How help names the value, for a switch that takes one. -/
  value : Option String
  explanation : String
  effect : Effect

namespace Switch

def takesValue (s : Switch) : Bool := s.value.isSome

def shortForm? (s : Switch) : Option (List Char) := s.short.map fun c => ['-', c]

def longForm (s : Switch) : List Char := '-' :: '-' :: s.long.toList

/-- The forms of a switch, the short one first. -/
def forms (s : Switch) : List String :=
  (s.shortForm?.toList ++ [s.longForm]).map String.ofList

/-- A form with the name of the value. -/
def withValue (s : Switch) (form : String) : String :=
  match s.value with
  | some value => form ++ " " ++ value
  | none => form

def header (s : Switch) : String := ", ".intercalate (s.forms.map s.withValue)

def usage (s : Switch) : String := "[" ++ s.withValue (s.forms.headD "") ++ "]"

end Switch

/-- Something named with an explanation. -/
structure Entry where
  name : String
  explanation : String

structure Grammar where
  name : String
  description : Option String
  switches : List Switch
  operands : List Entry
  commands : List Entry

/-! ## Help pages -/

/-- The column in which explanations start. -/
def explanationColumn : Nat := 24

def explanationWidth : Nat := 54

def wordLength (s : String) : Nat := s.toList.length

/-- Words in lines of a width, given the line that is being filled. -/
def fill (width : Nat) (line : String) : List String → List String
  | [] => [line]
  | word :: rest =>
    if wordLength line + 1 + wordLength word ≤ width then fill width (line ++ " " ++ word) rest
    else line :: fill width word rest

def wrap (width : Nat) (text : String) : List String :=
  match text.splitOn " " with
  | [] => []
  | word :: rest => fill width word rest

def blanks (n : Nat) : String := String.ofList (List.replicate n ' ')

/-- A name and its explanation, side by side if the name is short enough. -/
def describe (indent : Nat) (name explanation : String) : List String :=
  let column := blanks explanationColumn
  let lines := wrap explanationWidth explanation
  let label := blanks indent ++ name
  if wordLength label + 2 ≤ explanationColumn then
    match lines with
    | [] => [label]
    | first :: rest =>
      (label ++ blanks (explanationColumn - wordLength label) ++ first) :: rest.map (column ++ ·)
  else label :: lines.map (column ++ ·)

namespace Grammar

variable (g : Grammar)

/-- The names of the commands between braces. -/
def choices : String := "\x7b" ++ ",".intercalate (g.commands.map (·.name)) ++ "\x7d"

def usageLine : String :=
  let rest := if g.commands.isEmpty then g.operands.map (·.name) else [g.choices, "..."]
  " ".intercalate ("usage:" :: g.name :: g.switches.map Switch.usage ++ rest)

def positionalLines : List String :=
  if g.commands.isEmpty then g.operands.flatMap fun o => describe 2 o.name o.explanation
  else
    (blanks 2 ++ g.choices) :: g.commands.flatMap fun c => describe 4 c.name c.explanation

def switchLines : List String :=
  g.switches.flatMap fun s => describe 2 s.header s.explanation

def helpPage : String :=
  let description := match g.description with
    | some text => [text, ""]
    | none => []
  let lines := [g.usageLine, ""] ++ description ++ ["positional arguments:"] ++ g.positionalLines
    ++ ["", "options:"] ++ g.switchLines
  String.join (lines.map (· ++ "\n"))

end Grammar

end Hallmark.CommandLine
