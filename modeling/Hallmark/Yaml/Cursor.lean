/-
# Hallmark.Yaml.Cursor -- a position in a document

A cursor is the text that is left with its place: how many characters came before it,
on which line, in which column.  Past the end it shows `nul`, which no document may
contain.  The character classes are those of YAML 1.1, where the next line, line
separator and paragraph separator end a line too.
-/

namespace Hallmark.Yaml

set_option autoImplicit false

def nul : Char := Char.ofNat 0

def byteOrderMark : Char := Char.ofNat 0xFEFF

def lineSeparator : Char := Char.ofNat 0x2028

def paragraphSeparator : Char := Char.ofNat 0x2029

/-- The characters that may stand in a document. -/
def isAllowed (c : Char) : Bool :=
  let n := c.toNat
  n == 0x09 || n == 0x0A || n == 0x0D || (0x20 ≤ n && n ≤ 0x7E) || n == 0x85
    || (0xA0 ≤ n && n ≤ 0xD7FF) || (0xE000 ≤ n && n ≤ 0xFFFD) || (0x10000 ≤ n && n ≤ 0x10FFFF)

def isBreak (c : Char) : Bool :=
  c = '\n' || c = '\r' || c.toNat = 0x85 || c = lineSeparator || c = paragraphSeparator

def isBreakOrEnd (c : Char) : Bool := isBreak c || c = nul

def isSpaceOrEnd (c : Char) : Bool := c = ' ' || isBreakOrEnd c

def isGapOrEnd (c : Char) : Bool := c = '\t' || isSpaceOrEnd c

/-- The characters of anchors, handles and directive names. -/
def isWordChar (c : Char) : Bool := c.isAlphanum || c = '-' || c = '_'

structure Cursor where
  rest : List Char
  index : Nat
  line : Nat
  column : Nat

namespace Cursor

def start (text : List Char) : Cursor := ⟨text, 0, 0, 0⟩

/-- The character `k` places ahead. -/
def ahead (c : Cursor) (k : Nat) : Char := c.rest.getD k nul

def peek (c : Cursor) : Char := c.ahead 0

def advance (c : Cursor) : Cursor :=
  match c.rest with
  | [] => c
  | x :: rest =>
    if isBreak x && !(x = '\r' && rest.head? = some '\n') then ⟨rest, c.index + 1, c.line + 1, 0⟩
    else ⟨rest, c.index + 1, c.line, if x = byteOrderMark then c.column else c.column + 1⟩

def advanceBy : Nat → Cursor → Cursor
  | 0, c => c
  | n + 1, c => advanceBy n c.advance

/-- The characters that satisfy `p` from here on, and the cursor after them. -/
def span (p : Char → Bool) (c : Cursor) : List Char × Cursor :=
  let run := c.rest.takeWhile p
  (run, advanceBy run.length c)

def skip (p : Char → Bool) (c : Cursor) : Cursor := (c.span p).2

def skipSpaces (c : Cursor) : Cursor := c.skip (· = ' ')

/-- Skips a comment up to the end of its line. -/
def skipComment (c : Cursor) : Cursor :=
  if c.peek = '#' then c.skip (!isBreakOrEnd ·) else c

/-- A line break, as the character that it counts for. -/
def lineBreak? (c : Cursor) : Option (Char × Cursor) :=
  let x := c.peek
  if x = '\r' && c.ahead 1 = '\n' then some ('\n', advanceBy 2 c)
  else if x = lineSeparator || x = paragraphSeparator then some (x, c.advance)
  else if isBreak x then some ('\n', c.advance)
  else none

/-- Whether a document separator (`---` or `...`) stands here. -/
def atSeparator (c : Cursor) : Bool :=
  (c.rest.take 3 = ['-', '-', '-'] || c.rest.take 3 = ['.', '.', '.']) && isGapOrEnd (c.ahead 3)

end Cursor

end Hallmark.Yaml
