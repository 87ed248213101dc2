/-
# Hallmark.Yaml.Scalar -- types of scalars and the values they write

`Tag.ofSpelling` is the type that a scalar without a type of its own has by its spelling:
a truth word, a number (with `_` between digits, in base two, eight, ten, sixteen or
sixty), a date or moment, nothing, or else text.  A single line feed at the end does not
count for it.  `Tag.read` is the value of a scalar of a given type; a scalar that was
given a type by name, or has one in spite of a line feed, may turn out not to write any
value of it.
-/
import Hallmark.Yaml.Token
import Hallmark.Text.Lower
import Hallmark.Text.Split

namespace Hallmark.Yaml

set_option autoImplicit false

open Document Decimal

/-- The types that nodes can have; `merge` and `value` mark keys with a meaning of
their own, and `unknown` nodes have no value. -/
inductive Tag where
  | null
  | truth
  | whole
  | real
  | text
  | octets
  | timestamp
  | sequence
  | mapping
  | orderedMapping
  | pairs
  | set
  | merge
  | value
  | unknown
deriving DecidableEq

namespace Tag

/-- What the names of all types of YAML 1.1 start with. -/
def standard : String := "tag:yaml.org,2002:"

def names : List (String × Tag) :=
  [("null", .null), ("bool", .truth), ("int", .whole), ("float", .real), ("str", .text),
    ("binary", .octets), ("timestamp", .timestamp), ("seq", .sequence), ("map", .mapping),
    ("omap", .orderedMapping), ("pairs", .pairs), ("set", .set), ("merge", .merge),
    ("value", .value)]

def ofName (name : String) : Tag :=
  ((names.find? fun e => standard ++ e.1 = name).map (·.2)).getD .unknown

def isCollection : Tag → Bool
  | .sequence => true
  | .mapping => true
  | .orderedMapping => true
  | .pairs => true
  | .set => true
  | _ => false

end Tag

/-! ## Spellings -/

/-- Spellings are recognised without a line feed at their end. -/
def withoutFinalBreak (cs : List Char) : List Char :=
  if cs.getLast? = some '\n' then cs.dropLast else cs

def dropSign (cs : List Char) : List Char := (Text.takeSign cs).2

def isDigitOr (c : Char) : Bool := c.isDigit || c = '_'

def startsWithDigit : List Char → Bool
  | c :: _ => c.isDigit
  | [] => false

/-- A part of a number in base sixty after the first: one digit, or two below sixty. -/
def isSixtieth : List Char → Bool
  | [d] => d.isDigit
  | [t, d] => '0' ≤ t && t ≤ '5' && d.isDigit
  | _ => false

/-- A sign, digits, and after each of one or more colons a sixtieth. -/
def isSexagesimal (first : List Char → Bool) (cs : List Char) : Bool :=
  match Text.pieces ':' cs with
  | head :: part :: rest => first head && (part :: rest).all isSixtieth
  | _ => false

def isSignedExponent : List Char → Bool
  | [] => true
  | e :: s :: digits =>
    (e = 'e' || e = 'E') && (s = '+' || s = '-') && !digits.isEmpty && digits.all Char.isDigit
  | _ => false

def isWholeSpelling (cs : List Char) : Bool :=
  let body := dropSign cs
  match body with
  | '0' :: 'b' :: digits => !digits.isEmpty && digits.all fun c => c = '0' || c = '1' || c = '_'
  | '0' :: 'x' :: digits =>
    !digits.isEmpty && digits.all fun c => isDigitOr c || (Lex.hexValue? c).isSome
  | ['0'] => true
  | '0' :: digits => digits.all fun c => ('0' ≤ c && c ≤ '7') || c = '_'
  | c :: rest =>
    c.isDigit && (rest.all isDigitOr
      || isSexagesimal (fun head => startsWithDigit head && head.all isDigitOr) body)
  | [] => false

def isRealSpelling (cs : List Char) : Bool :=
  let body := dropSign cs
  let signed := body.length ≠ cs.length
  match body with
  | ['.', 'i', 'n', 'f'] => true
  | ['.', 'I', 'n', 'f'] => true
  | ['.', 'I', 'N', 'F'] => true
  | ['.', 'n', 'a', 'n'] => !signed
  | ['.', 'N', 'a', 'N'] => !signed
  | ['.', 'N', 'A', 'N'] => !signed
  | '.' :: fraction =>
    !signed && startsWithDigit fraction && isSignedExponent (fraction.dropWhile isDigitOr)
  | c :: rest =>
    let integral := (c :: rest).takeWhile fun d => isDigitOr d || d = ':'
    match (c :: rest).dropWhile fun d => isDigitOr d || d = ':' with
    | '.' :: fraction =>
      c.isDigit &&
        if integral.contains ':' then
          isSexagesimal (fun head => startsWithDigit head && head.all isDigitOr) integral
            && fraction.all isDigitOr
        else isSignedExponent (fraction.dropWhile isDigitOr)
    | _ => false
  | [] => false

/-- A date, and for a moment the time of day, the digits of its fraction and the offset
in minutes. -/
structure Stamp where
  date : Date
  time : Option (Nat × Nat × Nat × List Nat × Option Int)

def digitsValue (cs : List Char) : Nat := Text.ofDigits 10 (cs.map fun d => d.toNat - '0'.toNat)

/-- Between `least` and `most` digits at the front. -/
def takeDigits? (least most : Nat) (cs : List Char) : Option (Nat × List Char) :=
  let run := (cs.take most).takeWhile Char.isDigit
  if run.length < least then none else some (digitsValue run, cs.drop run.length)

def takeChar? (x : Char) : List Char → Option (List Char)
  | c :: rest => if c = x then some rest else none
  | [] => none

def isInlineBlank (c : Char) : Bool := c = ' ' || c = '\t'

/-- What ends a moment: nothing, `Z`, or a signed offset, after optional blanks. -/
def readOffset? (cs : List Char) : Option (Option Int) :=
  if cs.isEmpty then some none
  else
    match cs.dropWhile isInlineBlank with
    | ['Z'] => some (some 0)
    | s :: rest => do
      if s ≠ '+' ∧ s ≠ '-' then none
      let (hours, rest) ← takeDigits? 1 2 rest
      let minutes ←
        if rest.isEmpty then some 0
        else do
          let (minutes, rest) ← takeDigits? 2 2 (← takeChar? ':' rest)
          if rest.isEmpty then some minutes else none
      let size : Int := hours * 60 + minutes
      return some (if s = '-' then -size else size)
    | [] => none

def readTime? (cs : List Char) : Option (Nat × Nat × Nat × List Nat × Option Int) := do
  let rest ← match cs with
    | 'T' :: rest => some rest
    | 't' :: rest => some rest
    | c :: rest => if isInlineBlank c then some (rest.dropWhile isInlineBlank) else none
    | [] => none
  let (hour, rest) ← takeDigits? 1 2 rest
  let (minute, rest) ← takeDigits? 2 2 (← takeChar? ':' rest)
  let (second, rest) ← takeDigits? 2 2 (← takeChar? ':' rest)
  let (fraction, rest) := match rest with
    | '.' :: rest => (rest.takeWhile Char.isDigit, rest.dropWhile Char.isDigit)
    | rest => ([], rest)
  let offset ← readOffset? rest
  return (hour, minute, second, fraction.map fun d => d.toNat - '0'.toNat, offset)

def readStamp? (cs : List Char) : Option Stamp := do
  let (year, rest) ← takeDigits? 4 4 cs
  let (month, rest) ← takeDigits? 1 2 (← takeChar? '-' rest)
  let (day, rest) ← takeDigits? 1 2 (← takeChar? '-' rest)
  if rest.isEmpty then return ⟨⟨year, month, day⟩, none⟩
  return ⟨⟨year, month, day⟩, some (← readTime? rest)⟩

/-- A date without a time needs two digits for the month and for the day. -/
def isStampSpelling (cs : List Char) : Bool :=
  match readStamp? cs with
  | some stamp => stamp.time.isSome || cs.length = 10
  | none => false

def truthWords : List (String × Bool) :=
  [("yes", true), ("no", false), ("true", true), ("false", false), ("on", true), ("off", false)]

/-- A word in lower case, in upper case, or capitalised. -/
def isSpellingOf (cs : List Char) (word : String) : Bool :=
  let low := word.toList
  let high := low.map Char.toUpper
  cs = low || cs = high || cs = high.take 1 ++ low.drop 1

/-- An indicator that stands alone is no text. -/
def isLoneIndicator (cs : List Char) : Bool := cs = ['!'] || cs = ['&'] || cs = ['*']

def Tag.ofSpelling (content : List Char) : Tag :=
  let cs := withoutFinalBreak content
  if truthWords.any fun e => isSpellingOf cs e.1 then .truth
  else if isRealSpelling cs then .real
  else if isWholeSpelling cs then .whole
  else if cs = ['<', '<'] then .merge
  else if content = [] ∨ cs = ['~'] ∨ isSpellingOf cs "null" then .null
  else if isStampSpelling cs then .timestamp
  else if cs = ['='] then .value
  else if isLoneIndicator cs then .unknown
  else .text

/-! ## Values -/

def withoutUnderscores (cs : List Char) : List Char := cs.filter (· ≠ '_')

def readBase (base : Nat) (cs : List Char) : Except Fault Int :=
  (Text.readWhole base cs).mapError fun
    | .malformed => .numeral base (String.ofList cs)
    | .tooLong digits => .manyDigits digits

/-- Parts in base sixty, the first one heaviest. -/
def sexagesimal (parts : List Int) : Int := parts.foldl (fun total part => total * 60 + part) 0

def readWhole (content : List Char) : Except Fault Int := do
  let cs := withoutUnderscores content
  if cs.isEmpty then throw .emptyNumeral
  let (negative, body) := Text.takeSign cs
  let magnitude ← match body with
    | [] => throw .emptyNumeral
    | ['0'] => pure 0
    | '0' :: 'b' :: digits => readBase 2 digits
    | '0' :: 'x' :: digits => readBase 16 digits
    | '0' :: _ => readBase 8 body
    | _ =>
      if body.contains ':' then sexagesimal <$> (Text.pieces ':' body).mapM (readBase 10)
      else readBase 10 body
  return if negative then -magnitude else magnitude

def readDecimal (cs : List Char) : Except Fault Binary64 :=
  match Binary64.read? cs with
  | some x => .ok x
  | none => .error (.decimal (String.ofList cs))

/-- The sum of parts in base sixty, the last one lightest, rounded at every step; the
weight of each part has to be a number. -/
def sexagesimalReal (parts : List Binary64) : Except Fault Binary64 :=
  (·.1) <$> parts.reverse.foldlM (fun (total, weight) part =>
    match Binary64.ofNat? weight with
    | some w => .ok (total.add (part.mul w), weight * 60)
    | none => .error .tooLarge)
    (Binary64.zero false, 1)

/-- The mark of what is written as no number; otherwise every such value has its own. -/
def constantMark : Nat := 0

def readReal (mark : Nat) (content : List Char) : Except Fault Value := do
  let cs := Text.lower (withoutUnderscores content)
  if cs.isEmpty then throw .emptyNumeral
  let (negative, body) := Text.takeSign cs
  if body = ".nan".toList then return .undefined constantMark
  let magnitude ←
    if body = ".inf".toList then pure (.infinite false)
    else if body.contains ':' then do
      sexagesimalReal (← (Text.pieces ':' body).mapM readDecimal)
    else readDecimal body
  return match if negative then magnitude.negate else magnitude with
    | .nan => .undefined mark
    | x => .real x

/-- The first six digits of a fraction of a second, in millionths. -/
def millionths (fraction : List Nat) : Nat :=
  Text.ofDigits 10 ((fraction ++ List.replicate 6 0).take 6)

def readTimestamp (content : List Char) : Except Fault Value :=
  match readStamp? (withoutFinalBreak content) with
  | none => .error .notMoment
  | some ⟨date, none⟩ =>
    match date.check with
    | .ok d => .ok (.date d)
    | .error part => .error (.outOfRange part)
  | some ⟨date, some (hour, minute, second, fraction, offset)⟩ =>
    let checked := do
      let offset ← offset.mapM checkOffset
      let date ← date.check
      let clock ← Clock.check ⟨hour, minute, second, millionths fraction⟩
      return Value.moment ⟨date, clock, offset⟩
    checked.mapError .outOfRange

/-- The six bits that a character of the base sixty-four alphabet stands for. -/
def sextet? (c : Char) : Option Nat :=
  if 'A' ≤ c ∧ c ≤ 'Z' then some (c.toNat - 'A'.toNat)
  else if 'a' ≤ c ∧ c ≤ 'z' then some (c.toNat - 'a'.toNat + 26)
  else if c.isDigit then some (c.toNat - '0'.toNat + 52)
  else if c = '+' then some 62
  else if c = '/' then some 63
  else none

/-- Octets from base sixty-four: `count` sextets of the current group of four are in
`bits`, `pads` padding marks have been seen in it, and other characters are passed over. -/
def decodeSextets (count bits pads : Nat) (done : List UInt8) : List Char → Option (List UInt8)
  | [] => if count = 0 then some done.reverse else none
  | c :: rest =>
    if c = '=' then
      if 2 ≤ count ∧ 4 ≤ count + pads + 1 then some done.reverse
      else decodeSextets count bits (if 2 ≤ count then pads + 1 else pads) done rest
    else
      match sextet? c with
      | none => decodeSextets count bits pads done rest
      | some n =>
        match count with
        | 0 => decodeSextets 1 n 0 done rest
        | 1 => decodeSextets 2 (n % 16) 0 (UInt8.ofNat (bits * 4 + n / 16) :: done) rest
        | 2 => decodeSextets 3 (n % 4) 0 (UInt8.ofNat (bits * 16 + n / 4) :: done) rest
        | _ => decodeSextets 0 0 0 (UInt8.ofNat (bits * 64 + n) :: done) rest

/-- The value that a scalar of this type writes; `mark` is for one that is no number. -/
def Tag.read (tag : Tag) (mark : Nat) (content : String) : Except Unreadable Value :=
  let cs := content.toList
  let orFault (result : Except Fault Value) : Except Unreadable Value := result.mapError .fault
  match tag with
  | .null => .ok .none
  | .text => .ok (.text content)
  | .truth =>
    let word := String.ofList (Text.lower cs)
    match truthWords.lookup word with
    | some b => .ok (.truth b)
    | none => .error (.fault (.truthWord word))
  | .whole => orFault (.whole <$> readWhole cs)
  | .real => orFault (readReal mark cs)
  | .timestamp => orFault (readTimestamp cs)
  | .octets =>
    if cs.all fun c => c.toNat < 0x80 then
      match decodeSextets 0 0 0 [] cs with
      | some bytes => .ok (.octets bytes)
      | none => .error .malformed
    else .error .malformed
  | _ => .error .malformed

end Hallmark.Yaml
