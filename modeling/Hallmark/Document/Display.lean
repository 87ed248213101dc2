/-
# Hallmark.Document.Display -- values as text

`Value.display` is the text that a value stands for: a text stands for itself, a date
for its calendar form, and everything else for its literal form.  `Value.literal` is
the form in which a value appears inside another value and in messages: texts are
quoted, collections bracketed, numbers in the notation of `realStyle`.  A collection
within itself is three points between its brackets.

Whole numbers of more than `Text.longestDecimal` digits are not written.  `isWritable`
says that a value holds none.
-/
import Hallmark.Document.Value
import Hallmark.Text.Quoted

namespace Hallmark.Document

set_option autoImplicit false

open Hallmark.Decimal

/-- Numbers are positional from `0.0001` up to sixteen digits before the point, and
have an exponent of two digits or more otherwise. -/
def realStyle : Style := ⟨-4, 16, 2⟩

def commaSeparated (parts : List String) : String := ", ".intercalate parts

/-- A call with its arguments between parentheses. -/
def call (name : String) (arguments : List String) : String :=
  name ++ "(" ++ commaSeparated arguments ++ ")"

def Bracket.around (b : Bracket) (inner : String) : String :=
  match b with
  | .square => "[" ++ inner ++ "]"
  | .round => "(" ++ inner ++ ")"
  | .curly => "\x7b" ++ inner ++ "\x7d"

/-- What stands for a collection within itself. -/
def Bracket.ellipsis (b : Bracket) : String := b.around "..."

def Date.literal (d : Date) : String :=
  call "datetime.date" [toString d.year, toString d.month, toString d.day]

/-- A stretch of time as whole days, which may be negative, and seconds within a day. -/
def spanLiteral (seconds : Int) : String :=
  let part (name : String) (n : Int) : List String :=
    if n = 0 then [] else [name ++ "=" ++ toString n]
  let parts := part "days" (seconds.fdiv 86400) ++ part "seconds" (seconds.fmod 86400)
  call "datetime.timedelta" (if parts.isEmpty then ["0"] else parts)

def offsetLiteral (minutes : Int) : String :=
  if minutes = 0 then "datetime.timezone.utc"
  else call "datetime.timezone" [spanLiteral (minutes * 60)]

def Moment.literal (m : Moment) : String :=
  let c := m.clock
  let seconds :=
    if c.micro ≠ 0 then [toString c.second, toString c.micro]
    else if c.second ≠ 0 then [toString c.second]
    else []
  let zone := (m.offset.map fun o => ["tzinfo=" ++ offsetLiteral o]).getD []
  call "datetime.datetime" <|
    [toString m.date.year, toString m.date.month, toString m.date.day, toString c.hour,
      toString c.minute] ++ seconds ++ zone

def tupleLiteral : List String → String
  | [only] => "(" ++ only ++ ",)"
  | parts => Bracket.round.around (commaSeparated parts)

def setLiteral : List String → String
  | [] => "set()"
  | parts => Bracket.curly.around (commaSeparated parts)

namespace Value

/-- The brackets of a collection. -/
def bracket : Value → Bracket
  | .list _ => .square
  | .tuple _ => .round
  | .knot _ v => bracket v
  | .again _ b => b
  | _ => .curly

mutual

/-- The literal form of a value within the knots of some marks. -/
def literalIn (marks : List Nat) : Value → String
  | .none => "None"
  | .truth b => if b then "True" else "False"
  | .whole n => toString n
  | .real x => realStyle.render x
  | .undefined _ => realStyle.render .nan
  | .text s => Text.quoted s
  | .octets bytes => Text.quotedOctets bytes
  | .list items => Bracket.square.around (commaSeparated (literals marks items))
  | .tuple items => tupleLiteral (literals marks items)
  | .set items => setLiteral (literals marks items)
  | .map entries => Bracket.curly.around (commaSeparated (entryLiterals marks entries))
  | .date d => d.literal
  | .moment m => m.literal
  | .knot m v => if m ∈ marks then v.bracket.ellipsis else literalIn (m :: marks) v
  | .again _ b => b.ellipsis

def literals (marks : List Nat) : List Value → List String
  | [] => []
  | v :: rest => literalIn marks v :: literals marks rest

def entryLiterals (marks : List Nat) : List (Value × Value) → List String
  | [] => []
  | (k, v) :: rest =>
    (literalIn marks k ++ ": " ++ literalIn marks v) :: entryLiterals marks rest

end

def literal (v : Value) : String := literalIn [] v

def display : Value → String
  | .text s => s
  | .date d => d.shown
  | .moment m => m.shown
  | v => literal v

/-- The least whole number that is too long to be written. -/
def tooLong : Nat := Nat.pow 10 Text.longestDecimal

mutual

/-- Whether no whole number in a value is too long. -/
def isWritable : Value → Bool
  | .whole n => n.natAbs < tooLong
  | .list items => allWritable items
  | .tuple items => allWritable items
  | .set items => allWritable items
  | .map entries => entriesWritable entries
  | .knot _ v => isWritable v
  | _ => true

def allWritable : List Value → Bool
  | [] => true
  | v :: rest => isWritable v && allWritable rest

def entriesWritable : List (Value × Value) → Bool
  | [] => true
  | (k, v) :: rest => isWritable k && isWritable v && entriesWritable rest

end

/-- The word for the sort of a value. -/
def sortName : Value → String
  | .none => "NoneType"
  | .truth _ => "bool"
  | .whole _ => "int"
  | .real _ => "float"
  | .undefined _ => "float"
  | .text _ => "str"
  | .octets _ => "bytes"
  | .list _ => "list"
  | .tuple _ => "tuple"
  | .set _ => "set"
  | .map _ => "dict"
  | .date _ => "datetime.date"
  | .moment _ => "datetime.datetime"
  | .knot _ v => sortName v
  | .again _ .square => "list"
  | .again _ .round => "tuple"
  | .again _ .curly => "dict"

end Value

end Hallmark.Document
