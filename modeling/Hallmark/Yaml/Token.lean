/-
# Hallmark.Yaml.Token -- the tokens of a document

Besides what is written, the tokens mark where block collections begin and end, which
is decided by indentation, and which nodes are keys, which is decided by a later `:`.
`Lexer` holds what those decisions need: the open indentations, the depth of flow
collections, whether a key may start here, and for each flow depth the place of the
last node that could still turn out to be a key.  Such a key has to end on its line
within 1024 characters.

A token is settled when nothing can come before it any more.  Where a text cannot be read
further, `Tokens` still holds the tokens that are settled by then, and why no more follow.
-/
import Hallmark.Yaml.Cursor
import Hallmark.Failure

namespace Hallmark.Yaml

set_option autoImplicit false

/-- Why a document has no value: it is not well formed, or it writes something that is
no value of the type it asks for. -/
inductive Unreadable where
  | malformed
  | fault (f : Fault)

inductive Token where
  | version (major : Nat)
  | handle (name expansion : String)
  | otherDirective
  | documentStart
  | documentEnd
  | blockSequence
  | blockMapping
  | blockEnd
  | openSequence
  | closeSequence
  | openMapping
  | closeMapping
  | blockEntry
  | flowEntry
  | key
  | value
  | alias (name : String)
  | anchor (name : String)
  | tag (handle : Option String) (suffix : String)
  | scalar (content : String) (plain : Bool)
  | streamEnd
deriving DecidableEq

/-- A node that may turn out to be a key: the number of its first token, where it
starts, and whether only a key can stand there. -/
structure KeyCandidate where
  number : Nat
  required : Bool
  index : Nat
  line : Nat
  column : Nat

/-- Whether a key can no longer end where the cursor stands. -/
def KeyCandidate.isStale (k : KeyCandidate) (c : Cursor) : Bool :=
  k.line ≠ c.line || 1024 < c.index - k.index

/-- The tokens so far are held with the last one first.  No loop over the text takes more
steps than `bound`. -/
structure Lexer where
  here : Cursor
  bound : Nat
  tokens : List Token
  count : Nat
  depth : Nat
  indent : Int
  outer : List Int
  keyAllowed : Bool
  candidates : List (Nat × KeyCandidate)

abbrev Lex := StateT Lexer (Except Unreadable)

namespace Lex

def malformed {α : Type} : Lex α := throw .malformed

def require (condition : Bool) : Lex Unit :=
  if condition then pure () else malformed

def here : Lex Cursor := return (← get).here

def moveTo (c : Cursor) : Lex Unit := modify fun s => { s with here := c }

def advance (n : Nat) : Lex Unit := modify fun s => { s with here := Cursor.advanceBy n s.here }

def emit (t : Token) : Lex Unit := modify fun s =>
  { s with tokens := t :: s.tokens, count := s.count + 1 }

/-- The token `t` in front of the token of this number, or at the end. -/
def emitAt (number : Nat) (t : Token) : Lex Unit := modify fun s =>
  { s with tokens := s.tokens.insertIdx (s.count - number) t, count := s.count + 1 }

def allowKey (allowed : Bool) : Lex Unit := modify fun s => { s with keyAllowed := allowed }

/-- Gives up the candidates that can no longer be keys. -/
def dropStale : Lex Unit := do
  let s ← get
  require (!s.candidates.any fun e => e.2.isStale s.here && e.2.required)
  set { s with candidates := s.candidates.filter fun e => !e.2.isStale s.here }

/-- Gives up the candidate of this depth. -/
def dropCandidate : Lex Unit := do
  let s ← get
  require (!((s.candidates.lookup s.depth).any (·.required)))
  set { s with candidates := s.candidates.filter (·.1 ≠ s.depth) }

/-- The node that starts here may be a key. -/
def saveCandidate : Lex Unit := do
  if (← get).keyAllowed then
    dropCandidate
    let s ← get
    let c := s.here
    let required := s.depth = 0 ∧ s.indent = (c.column : Int)
    let candidate : KeyCandidate := ⟨s.count, required, c.index, c.line, c.column⟩
    set { s with candidates := (s.depth, candidate) :: s.candidates }

/-- Closes the block collections that are indented further than `column`: how many those
are, and the indentations that stay. -/
def closeBlocks (column indent : Int) : List Int → Nat × Int × List Int
  | [] => (0, indent, [])
  | next :: outer =>
    if column < indent then
      let (closed, rest) := closeBlocks column next outer
      (closed + 1, rest)
    else (0, indent, next :: outer)

def unwind (column : Int) : Lex Unit := modify fun s =>
  if s.depth ≠ 0 then s
  else
    let (closed, indent, outer) := closeBlocks column s.indent s.outer
    { s with
      indent := indent
      outer := outer
      tokens := List.replicate closed .blockEnd ++ s.tokens
      count := s.count + closed }

/-- Opens a block collection at `column` unless one is open there; its token takes the
given place among the tokens. -/
def openBlock (column : Nat) (t : Token) (number : Nat) : Lex Unit := do
  let s ← get
  if s.indent < (column : Int) then
    set { s with indent := (column : Int), outer := s.indent :: s.outer }
    emitAt number t

/-- Skips blanks, comments and line breaks; a line break lets a key start. -/
def skipToToken : Nat → Cursor → Bool → Cursor × Bool
  | 0, c, broke => (c, broke)
  | fuel + 1, c, broke =>
    let c := c.skipSpaces.skipComment
    match c.lineBreak? with
    | some (_, c) => skipToToken fuel c true
    | none => (c, broke)

/-- The rest of a line that may hold nothing more than a comment. -/
def finishLine : Lex Unit := do
  let c := (← here).skipSpaces.skipComment
  require (isBreakOrEnd c.peek)
  moveTo ((c.lineBreak?.map (·.2)).getD c)

/-! ## Directives and properties -/

def word : Lex String := do
  let (run, c) := (← here).span isWordChar
  require (!run.isEmpty)
  moveTo c
  return String.ofList run

/-- A number in a version, which may not be longer than numbers can be read. -/
def number : Lex Nat := do
  let (run, c) := (← here).span Char.isDigit
  require (!run.isEmpty)
  if Text.longestDecimal < run.length then throw (.fault (.manyDigits run.length))
  moveTo c
  return Text.ofDigits 10 (run.map fun d => d.toNat - '0'.toNat)

/-- A tag handle: `!`, `!!` or `!name!`. -/
def tagHandle : Lex String := do
  let c ← here
  require (c.peek = '!')
  if c.ahead 1 = ' ' then
    moveTo c.advance
    return "!"
  let (run, after) := c.advance.span isWordChar
  require (after.peek = '!')
  moveTo after.advance
  return String.ofList ('!' :: run ++ ['!'])

def isUriChar (c : Char) : Bool :=
  c.isAlphanum || "-;/?:@&=+$,_.!~*'()[]".toList.contains c

def hexValue? (c : Char) : Option Nat := Text.digitIn? 16 c |>.filter fun _ => c.toNat < 0x80

def hexNumber? (cs : List Char) : Option Nat :=
  (cs.mapM hexValue?).map (Text.ofDigits 16)

/-- A run of `%`-escaped octets, which have to be text. -/
def uriEscapes : Nat → Cursor → List UInt8 → Option (List Char × Cursor)
  | 0, _, _ => none
  | fuel + 1, c, octets =>
    if c.peek = '%' then
      match c.advance.rest.take 2 with
      | [a, b] =>
        (hexNumber? [a, b]).bind fun n =>
          uriEscapes fuel (Cursor.advanceBy 3 c) (octets ++ [UInt8.ofNat n])
      | _ => none
    else
      match Text.Utf8.decode octets with
      | .ok cs => some (cs, c)
      | .error _ => none

def uriParts : Nat → Cursor → List Char → Option (List Char × Cursor)
  | 0, _, _ => none
  | fuel + 1, c, done =>
    let (run, c) := c.span isUriChar
    if c.peek = '%' then
      (uriEscapes (fuel + 1) c []).bind fun (cs, c) => uriParts fuel c (done ++ run ++ cs)
    else some (done ++ run, c)

/-- The part of a tag after its handle, or the expansion of a handle. -/
def uri : Lex String := do
  let c ← here
  let first := c.peek
  match uriParts (← get).bound c [] with
  | some (cs, after) =>
    require (isUriChar first || first = '%')
    moveTo after
    return String.ofList cs
  | none => malformed

def directive : Lex Unit := do
  unwind (-1)
  dropCandidate
  allowKey false
  advance 1
  let name ← word
  require (isSpaceOrEnd (← here).peek)
  if name = "YAML" then
    moveTo (← here).skipSpaces
    let major ← number
    require ((← here).peek = '.')
    advance 1
    let _ ← number
    require (isSpaceOrEnd (← here).peek)
    emit (.version major)
  else if name = "TAG" then
    moveTo (← here).skipSpaces
    let handle ← tagHandle
    require ((← here).peek = ' ')
    moveTo (← here).skipSpaces
    let expansion ← uri
    require (isSpaceOrEnd (← here).peek)
    emit (.handle handle expansion)
  else
    moveTo ((← here).skip (!isBreakOrEnd ·))
    emit .otherDirective
  finishLine

/-- An alias or an anchor, after its indicator. -/
def reference (token : String → Token) : Lex Unit := do
  saveCandidate
  allowKey false
  advance 1
  let name ← word
  let next := (← here).peek
  require (isGapOrEnd next || ("?:,]%@".toList ++ ['\x7d', '\x60']).contains next)
  emit (token name)

/-- Whether a `!` stands between the first character of a tag and the space after it. -/
def hasHandle (c : Cursor) : Bool :=
  ((c.advance.span (!isSpaceOrEnd ·)).1).contains '!'

def tag : Lex Unit := do
  saveCandidate
  allowKey false
  let c ← here
  let next := c.ahead 1
  if next = '<' then
    advance 2
    let suffix ← uri
    require ((← here).peek = '>')
    advance 1
    emit (.tag none suffix)
  else if isGapOrEnd next then
    advance 1
    emit (.tag none "!")
  else if hasHandle c then
    let handle ← tagHandle
    let suffix ← uri
    emit (.tag (some handle) suffix)
  else
    advance 1
    let suffix ← uri
    emit (.tag (some "!") suffix)
  require (isSpaceOrEnd (← here).peek)

/-! ## Scalars

What is being collected is held with the last character first. -/

/-- Line breaks below the indentation, and the cursor at the next line's content. -/
def blockBreaks (indent : Nat) : Nat → Cursor → List Char → List Char × Cursor
  | 0, c, breaks => (breaks.reverse, c)
  | fuel + 1, c, breaks =>
    let room := indent - c.column
    let c := Cursor.advanceBy (min room (c.rest.takeWhile (· = ' ')).length) c
    match c.lineBreak? with
    | some (b, c) => blockBreaks indent fuel c (b :: breaks)
    | none => (breaks.reverse, c)

/-- The leading empty lines of a block scalar and its greatest indentation in them. -/
def blockIndentation : Nat → Cursor → List Char → Nat → List Char × Nat × Cursor
  | 0, c, breaks, deepest => (breaks.reverse, deepest, c)
  | fuel + 1, c, breaks, deepest =>
    let c := c.skipSpaces
    let deepest := max deepest c.column
    match c.lineBreak? with
    | some (b, c) => blockIndentation fuel c (b :: breaks) deepest
    | none => (breaks.reverse, deepest, c)

/-- The lines of a block scalar: what was collected, the last line break and the line
breaks after it. -/
def blockLines (folded : Bool) (indent : Nat) :
    Nat → Cursor → List Char → List Char → List Char × List Char × List Char × Cursor
  | 0, c, breaks, done => (done.reverse, [], breaks, c)
  | fuel + 1, c, breaks, done =>
    if c.column = indent ∧ c.peek ≠ nul then
      let lead := c.peek ≠ ' ' && c.peek ≠ '\t'
      let (run, c) := c.span (!isBreakOrEnd ·)
      let done := run.reverse ++ (breaks.reverse ++ done)
      let (ending, c) := match c.lineBreak? with
        | some (b, c) => ([b], c)
        | none => ([], c)
      let (breaks, c) := blockBreaks indent fuel c []
      if c.column = indent ∧ c.peek ≠ nul then
        let joins := folded && ending = ['\n'] && lead && c.peek ≠ ' ' && c.peek ≠ '\t'
        let done :=
          if joins then (if breaks.isEmpty then ' ' :: done else done) else ending ++ done
        blockLines folded indent fuel c breaks done
      else (done.reverse, ending, breaks, c)
    else (done.reverse, [], breaks, c)

/-- Whether the last line breaks are kept (`some true`), dropped (`some false`) or
reduced to one, and an explicit indentation. -/
def blockHeader : Lex (Option Bool × Option Nat) := do
  let chomp : Lex (Option Bool) := do
    let x := (← here).peek
    if x = '+' ∨ x = '-' then
      advance 1
      return some (x = '+')
    return none
  let increment : Lex (Option Nat) := do
    let x := (← here).peek
    if x.isDigit then
      require (x ≠ '0')
      advance 1
      return some (x.toNat - '0'.toNat)
    return none
  let before ← chomp
  let size ← increment
  let after ← if before.isNone ∧ size.isSome then chomp else pure none
  require (isSpaceOrEnd (← here).peek)
  return (before <|> after, size)

def blockScalar (folded : Bool) : Lex Unit := do
  allowKey true
  dropCandidate
  advance 1
  let (keep, increment) ← blockHeader
  finishLine
  let c ← here
  let least := (max 1 ((← get).indent + 1)).toNat
  let fuel := (← get).bound
  let (indent, breaks, c) :=
    match increment with
    | none =>
      let (breaks, deepest, c) := blockIndentation fuel c [] 0
      (max least deepest, breaks, c)
    | some n =>
      let indent := least + n - 1
      let (breaks, c) := blockBreaks indent fuel c []
      (indent, breaks, c)
  let (content, ending, trailing, c) := blockLines folded indent fuel c breaks []
  let content := if keep = some false then content else content ++ ending
  let content := if keep = some true then content ++ trailing else content
  moveTo c
  emit (.scalar (String.ofList content) false)

/-- What a letter after a backslash stands for. -/
def escapes : List (Char × Nat) :=
  [('0', 0x00), ('a', 0x07), ('b', 0x08), ('t', 0x09), ('\t', 0x09), ('n', 0x0A), ('v', 0x0B),
    ('f', 0x0C), ('r', 0x0D), ('e', 0x1B), (' ', 0x20), ('\x22', 0x22), ('\\', 0x5C), ('/', 0x2F),
    ('N', 0x85), ('_', 0xA0), ('L', 0x2028), ('P', 0x2029)]

/-- How many digits follow the letter of a numeric escape. -/
def numericEscapes : List (Char × Nat) := [('x', 2), ('u', 4), ('U', 8)]

/-- The line breaks inside a quoted scalar, after the first. -/
def quotedBreaks : Nat → Cursor → List Char → Option (List Char × Cursor)
  | 0, _, _ => none
  | fuel + 1, c, breaks =>
    if c.atSeparator then none
    else
      let c := c.skip fun x => x = ' ' || x = '\t'
      match c.lineBreak? with
      | some (b, c) => quotedBreaks fuel c (b :: breaks)
      | none => some (breaks.reverse, c)

/-- An escape sequence after its backslash. -/
def escape (fuel : Nat) (c : Cursor) : Except Unreadable (List Char × Cursor) :=
  let x := c.peek
  match escapes.lookup x, numericEscapes.lookup x, c.lineBreak? with
  | some n, _, _ => .ok ([Char.ofNat n], c.advance)
  | none, some width, _ =>
    let digits := c.advance.rest.take width
    match if digits.length = width then hexNumber? digits else none with
    | some n =>
      if 0x10FFFF < n then .error (.fault (.codePoint n))
      else .ok ([Text.charOf n], Cursor.advanceBy (width + 1) c)
    | none => .error .malformed
  | none, none, some (_, c) =>
    match quotedBreaks fuel c [] with
    | some result => .ok result
    | none => .error .malformed
  | none, none, none => .error .malformed

/-- The content of a quoted scalar from here to its closing quote. -/
def quotedContent (double : Bool) :
    Nat → Cursor → List Char → Except Unreadable (List Char × Cursor)
  | 0, _, _ => .error .malformed
  | fuel + 1, c, done =>
    let quote := if double then '\x22' else '\x27'
    let x := c.peek
    if x = quote then
      if !double && c.ahead 1 = quote then
        quotedContent double fuel (Cursor.advanceBy 2 c) (quote :: done)
      else .ok (done.reverse, c.advance)
    else if x = nul then .error .malformed
    else if double && x = '\\' then
      (escape fuel c.advance).bind fun (cs, c) => quotedContent double fuel c (cs.reverse ++ done)
    else if x = ' ' ∨ x = '\t' ∨ isBreak x then
      let (gap, c) := c.span fun y => y = ' ' || y = '\t'
      match c.lineBreak? with
      | some (b, c) =>
        match quotedBreaks fuel c [] with
        | some (breaks, c) =>
          let lead := if b ≠ '\n' then [b] else if breaks.isEmpty then [' '] else []
          quotedContent double fuel c (breaks.reverse ++ (lead ++ done))
        | none => .error .malformed
      | none =>
        if c.peek = nul then .error .malformed
        else quotedContent double fuel c (gap.reverse ++ done)
    else
      let stops (y : Char) : Bool :=
        isGapOrEnd y || y = quote || (double && y = '\\')
      let (run, c) := c.span (!stops ·)
      quotedContent double fuel c (run.reverse ++ done)

def quotedScalar (double : Bool) : Lex Unit := do
  saveCandidate
  allowKey false
  let c := (← here).advance
  match quotedContent double (← get).bound c [] with
  | .ok (content, c) =>
    moveTo c
    emit (.scalar (String.ofList content) false)
  | .error e => throw e

def flowIndicators : List Char := [',', '?', '[', ']', '\x7b', '\x7d']

/-- Whether a plain scalar ends before the character `x` that `next` follows. -/
def endsPlain (flow : Bool) (x next : Char) : Bool :=
  isGapOrEnd x
    || (x = ':' && (isGapOrEnd next || (flow && [',', '[', ']', '\x7b', '\x7d'].contains next)))
    || (flow && flowIndicators.contains x)

def plainRun (flow : Bool) : List Char → List Char
  | [] => []
  | x :: rest => if endsPlain flow x (rest.headD nul) then [] else x :: plainRun flow rest

/-- Line breaks inside a plain scalar after the first; `none` at a document separator. -/
def plainBreaks : Nat → Cursor → List Char → Option (List Char) × Cursor
  | 0, c, breaks => (some breaks.reverse, c)
  | fuel + 1, c, breaks =>
    let c := c.skipSpaces
    match c.lineBreak? with
    | some (b, c) =>
      if c.atSeparator then (none, c) else plainBreaks fuel c (b :: breaks)
    | none => (some breaks.reverse, c)

/-- The space between two parts of a plain scalar (none if nothing can follow), whether
it held a line break, and the cursor after it. -/
def plainGap (fuel : Nat) (c : Cursor) : List Char × Bool × Cursor :=
  let (gap, c) := c.span (· = ' ')
  match c.lineBreak? with
  | none => (gap, false, c)
  | some (b, c) =>
    if c.atSeparator then ([], true, c)
    else
      match plainBreaks fuel c [] with
      | (none, c) => ([], true, c)
      | (some breaks, c) =>
        let lead := if b ≠ '\n' then [b] else if breaks.isEmpty then [' '] else []
        (lead ++ breaks, true, c)

/-- A plain scalar over several lines; `broke` says whether the last gap held a line
break, after which a key may start. -/
def plainParts (flow : Bool) (indent : Int) :
    Nat → Cursor → List Char → List Char → Bool → List Char × Bool × Cursor
  | 0, c, _, done, broke => (done.reverse, broke, c)
  | fuel + 1, c, gap, done, broke =>
    let run := if c.peek = '#' then [] else plainRun flow c.rest
    if run.isEmpty then (done.reverse, broke, c)
    else
      let done := run.reverse ++ (gap.reverse ++ done)
      let (gap, broke, c) := plainGap fuel (Cursor.advanceBy run.length c)
      if gap.isEmpty ∨ c.peek = '#' ∨ (!flow ∧ (c.column : Int) < indent) then
        (done.reverse, broke, c)
      else plainParts flow indent fuel c gap done broke

def plainScalar : Lex Unit := do
  saveCandidate
  let s ← get
  let c := s.here
  let (content, broke, c) :=
    plainParts (s.depth ≠ 0) (s.indent + 1) s.bound c [] [] false
  moveTo c
  allowKey broke
  emit (.scalar (String.ofList content) true)

/-- Whether a plain scalar may start with `x` before `next`. -/
def startsPlain (flow : Bool) (x next : Char) : Bool :=
  let indicators :=
    "-?:,[]#&*!|>'%@".toList ++ ['\x7b', '\x7d', '\x22', '\x60']
  (!isGapOrEnd x && !indicators.contains x)
    || (!isGapOrEnd next && (x = '-' || (!flow && (x = '?' || x = ':'))))

/-! ## Structure -/

def separator (t : Token) : Lex Unit := do
  unwind (-1)
  dropCandidate
  allowKey false
  advance 3
  emit t

def openFlow (t : Token) : Lex Unit := do
  saveCandidate
  modify fun s => { s with depth := s.depth + 1, keyAllowed := true }
  advance 1
  emit t

def closeFlow (t : Token) : Lex Unit := do
  dropCandidate
  require ((← get).depth ≠ 0)
  modify fun s => { s with depth := s.depth - 1, keyAllowed := false }
  advance 1
  emit t

def flowEntry : Lex Unit := do
  allowKey true
  dropCandidate
  advance 1
  emit .flowEntry

/-- In block context an indicator needs a place where a key may start, and opens the
collection that it belongs to. -/
def openHere (t : Token) : Lex Unit := do
  let s ← get
  if s.depth = 0 then
    require s.keyAllowed
    openBlock s.here.column t s.count

def blockEntry : Lex Unit := do
  openHere .blockSequence
  allowKey true
  dropCandidate
  advance 1
  emit .blockEntry

def explicitKey : Lex Unit := do
  openHere .blockMapping
  allowKey ((← get).depth = 0)
  dropCandidate
  advance 1
  emit .key

/-- A `:` makes a key of the candidate of this depth, or follows an explicit key. -/
def mappingValue : Lex Unit := do
  let s ← get
  match s.candidates.lookup s.depth with
  | some candidate =>
    set { s with candidates := s.candidates.filter (·.1 ≠ s.depth) }
    emitAt candidate.number .key
    if s.depth = 0 then openBlock candidate.column .blockMapping candidate.number
    allowKey false
  | none =>
    openHere .blockMapping
    allowKey (s.depth = 0)
    dropCandidate
  advance 1
  emit .value

def finish : Lex Unit := do
  unwind (-1)
  dropCandidate
  emit .streamEnd

/-- One token and those that indentation implies; `false` at the end of the text. -/
def next : Lex Bool := do
  let s ← get
  let start :=
    if s.here.index = 0 ∧ s.here.peek = byteOrderMark then s.here.advance else s.here
  let (c, broke) := skipToToken s.bound start false
  set { s with here := c, keyAllowed := s.keyAllowed || (broke && s.depth = 0) }
  dropStale
  unwind c.column
  let s ← get
  let flow := s.depth ≠ 0
  let x := c.peek
  let after := c.ahead 1
  if x = nul then
    finish
    return false
  if x = '%' ∧ c.column = 0 then directive
  else if x = '-' ∧ c.column = 0 ∧ c.atSeparator then separator .documentStart
  else if x = '.' ∧ c.column = 0 ∧ c.atSeparator then separator .documentEnd
  else if x = '[' then openFlow .openSequence
  else if x = '\x7b' then openFlow .openMapping
  else if x = ']' then closeFlow .closeSequence
  else if x = '\x7d' then closeFlow .closeMapping
  else if x = ',' then flowEntry
  else if x = '-' ∧ isGapOrEnd after then blockEntry
  else if x = '?' ∧ (flow ∨ isGapOrEnd after) then explicitKey
  else if x = ':' ∧ (flow ∨ isGapOrEnd after) then mappingValue
  else if x = '*' then reference .alias
  else if x = '&' then reference .anchor
  else if x = '!' then tag
  else if x = '|' ∧ !flow then blockScalar false
  else if x = '>' ∧ !flow then blockScalar true
  else if x = '\x27' then quotedScalar false
  else if x = '\x22' then quotedScalar true
  else if startsPlain flow x after then plainScalar
  else malformed
  return true

end Lex

/-- The number of the first token that is not settled. -/
def Lexer.settled (s : Lexer) : Nat :=
  let live := s.candidates.filter fun e => !e.2.isStale s.here
  live.foldl (fun least e => min least e.2.number) s.count

/-- The tokens of a text as far as they are settled, and why no more follow if they do not
go up to its end. -/
structure Tokens where
  settled : List Token
  fault : Option Unreadable

/-- Steps up to the end of the text or to a step that fails. -/
def Tokens.from : Nat → Lexer → Tokens
  | 0, s => ⟨s.tokens.reverse, some .malformed⟩
  | fuel + 1, s =>
    match Lex.next.run s with
    | .error e => ⟨(s.tokens.drop (s.count - s.settled)).reverse, some e⟩
    | .ok (true, s) => Tokens.from fuel s
    | .ok (false, s) => ⟨s.tokens.reverse, none⟩

/-- The tokens of a text; every step but the last takes at least one character. -/
def Tokens.ofText (text : List Char) : Tokens :=
  let bound := text.length + 2
  Tokens.from bound
    { here := Cursor.start text, bound := bound, tokens := [], count := 0, depth := 0
      indent := -1, outer := [], keyAllowed := true, candidates := [] }

end Hallmark.Yaml
