/-
# Hallmark.CommandLine.Arguments -- arguments by the grammar of a command

An argument is a switch when it starts with `-`, unless it is `-` alone, a negative
number, or an unknown form with a space in it.  A long form may be shortened as long as
one switch remains that it can stand for, and its value may follow a `=`; short forms can
share one `-`, and the value of the last may follow at once.  After `--` everything is an
operand, and a value that is `--` vanishes.  Operands and unknown switches that are left
over are kept as extras.

All arguments are classified before any takes effect; then they take effect in order, so
that a page is shown only if nothing before it is refused.
-/
import Hallmark.CommandLine.Grammar
import Hallmark.Text.Digit
import Hallmark.Text.Split

namespace Hallmark.CommandLine

set_option autoImplicit false

inductive UsageError where
  | ambiguous (written : String) (forms : List String)
  | missingValue (form : String)
  | needlessValue (form value : String)
  | missingOperands (names : List String)
  | unknownCommand (name : String) (known : List String)
  | unrecognized (extras : List String)
deriving Repr

def UsageError.message : UsageError → String
  | .ambiguous written forms =>
    "ambiguous option: " ++ written ++ " could match " ++ ", ".intercalate forms
  | .missingValue form => "argument " ++ form ++ ": expected one argument"
  | .needlessValue form value =>
    "argument " ++ form ++ ": ignored explicit argument '" ++ value ++ "'"
  | .missingOperands names =>
    "the following arguments are required: " ++ ", ".intercalate names
  | .unknownCommand name known =>
    "argument command: invalid choice: '" ++ name ++ "' (choose from "
      ++ ", ".intercalate (known.map fun k => "'" ++ k ++ "'") ++ ")"
  | .unrecognized extras => "unrecognized arguments: " ++ " ".intercalate extras

/-- Why no request results from arguments. -/
inductive Stop where
  | helpPage (page : String)
  | version
  | refused (e : UsageError)
deriving Repr

/-! ## Classification -/

inductive Shape where
  | operand
  | divider
  /-- A switch, and the value in the same argument: after a `=`, or directly behind a short
  form. -/
  | switch (s : Switch) (isShort : Bool) (value : Option (List Char))
  | unknown

structure Token where
  written : String
  shape : Shape

/-- Whether the characters are those of a negative number, perhaps before a line end. -/
def isNegativeNumber (cs : List Char) : Bool :=
  let cs := if cs.getLast? = some '\n' then cs.dropLast else cs
  let isDigit (c : Char) : Bool := (Text.digitValue? c).isSome
  match cs with
  | '-' :: digits =>
    match Text.cut '.' digits with
    | (whole, none) => !whole.isEmpty && whole.all isDigit
    | (whole, some rest) => whole.all isDigit && !rest.isEmpty && rest.all isDigit
  | _ => false

namespace Grammar

variable (g : Grammar)

def short? (c : Char) : Option Switch := g.switches.find? (·.short = some c)

/-- The switch of which the characters are a form, and whether it is the short form. -/
def fullForm? (cs : List Char) : Option (Switch × Bool) :=
  match g.switches.find? (·.shortForm? = some cs) with
  | some s => some (s, true)
  | none => (g.switches.find? (·.longForm = cs)).map (·, false)

/-- An argument that begins with two marks and is no form of a switch. -/
def classifyLong (cs : List Char) : Except UsageError (Option Shape) :=
  let (form, value) := Text.cut '=' cs
  match g.switches.filter fun s => form.isPrefixOf s.longForm with
  | [] => .ok none
  | [s] => .ok (some (.switch s false value))
  | several =>
    .error (.ambiguous (String.ofList cs) (several.map fun s => String.ofList s.longForm))

/-- An argument that begins with one mark and is no form of a switch. -/
def classifyShort (c : Char) (value : List Char) : Option Shape :=
  (g.short? c).map fun s => .switch s true (some value)

/-- The switch that an argument is, in full or shortened. -/
def switch? (cs : List Char) : Except UsageError (Option Shape) :=
  match g.fullForm? cs with
  | some (s, isShort) => .ok (some (.switch s isShort none))
  | none =>
    let (form, value) := Text.cut '=' cs
    match value, g.fullForm? form with
    | some value, some (s, isShort) => .ok (some (.switch s isShort (some value)))
    | _, _ =>
      match cs with
      | '-' :: '-' :: _ => g.classifyLong cs
      | _ :: c :: value => .ok (g.classifyShort c value)
      | _ => .ok none

def classify (written : String) : Except UsageError Shape :=
  let cs := written.toList
  match cs with
  | '-' :: _ :: _ =>
    let other := if isNegativeNumber cs || cs.contains ' ' then .operand else .unknown
    (·.getD other) <$> g.switch? cs
  | _ => .ok .operand

def tokens : List String → Except UsageError (List Token)
  | [] => .ok []
  | written :: rest =>
    if written = "--" then .ok (⟨written, .divider⟩ :: rest.map (⟨·, .operand⟩))
    else do return ⟨written, ← g.classify written⟩ :: (← tokens rest)

end Grammar

/-! ## Taking effect -/

/-- What has been read; an operand or a value that vanishes is absent. -/
structure Reading where
  given : List (Switch × Option String)
  operands : List (Option String)
  command : Option (String × List String)
  extras : List String

namespace Reading

def empty : Reading := ⟨[], [], none, []⟩

def addOperand (r : Reading) (value : Option String) : Reading :=
  { r with operands := r.operands ++ [value] }

def addExtra (r : Reading) (written : String) : Reading :=
  { r with extras := r.extras ++ [written] }

/-- The last value given for a switch, if it was given, and if that has not vanished. -/
def value? (r : Reading) (long : String) : Option (Option String) :=
  (r.given.reverse.find? fun e => e.1.long = long).map (·.2)

def has (r : Reading) (long : String) : Bool := r.given.any fun e => e.1.long = long

end Reading

/-- The switches that one argument holds: with their values, and whether the last value is
the argument that follows. -/
structure Bundle where
  switches : List (Switch × Option String)
  takesNext : Bool

namespace Grammar

variable (g : Grammar)

/-- A switch without a value in its own argument. -/
def bare (s : Switch) (next : Option String) : Except UsageError Bundle :=
  if s.takesValue then
    match next with
    | some value => .ok ⟨[(s, some value)], true⟩
    | none => .error (.missingValue ("/".intercalate s.forms))
  else .ok ⟨[(s, none)], false⟩

/-- The value that is written for a switch. -/
def writtenValue (cs : List Char) : Option String :=
  if cs = ['-', '-'] then none else some (String.ofList cs)

/-- A switch whose argument goes on with some characters: its value, or further short forms
if it is a short form that takes none. -/
def bundle (s : Switch) (isShort : Bool) (next : Option String) :
    List Char → Except UsageError Bundle
  | [] =>
    if s.takesValue then .ok ⟨[(s, some "")], false⟩
    else .error (.needlessValue ("/".intercalate s.forms) "")
  | c :: rest =>
    let cs := c :: rest
    if s.takesValue then .ok ⟨[(s, writtenValue cs)], false⟩
    else
      match if isShort then g.short? c else none with
      | none => .error (.needlessValue ("/".intercalate s.forms) (String.ofList cs))
      | some t => do
        let others ← if rest.isEmpty then bare t next else bundle t true next rest
        return { others with switches := (s, none) :: others.switches }

/-- Switches take effect in order. -/
def perform (r : Reading) : List (Switch × Option String) → Except Stop Reading
  | [] => .ok r
  | e :: rest =>
    match e.1.effect with
    | .showHelp => .error (.helpPage g.helpPage)
    | .showVersion => .error .version
    | .note => perform { r with given := r.given ++ [e] } rest

/-- The argument that follows, if it can be a value. -/
def valueIn : List Token → Option String
  | ⟨written, .operand⟩ :: _ => some written
  | _ => none

def switchBundle (s : Switch) (isShort : Bool) (value : Option (List Char))
    (rest : List Token) : Except Stop Bundle :=
  (match value with
    | none => bare s (valueIn rest)
    | some cs => g.bundle s isShort (valueIn rest) cs).mapError .refused

/-- Reads tokens while at most `room` operands are wanted.  A divider vanishes with the
operand that it touches; one that is an operand by itself leaves no value. -/
def readTokens (room : Nat) (r : Reading) : List Token → Except Stop Reading
  | [] => .ok r
  | ⟨written, .operand⟩ :: rest =>
    if !g.commands.isEmpty then .ok { r with command := some (written, rest.map (·.written)) }
    else
      match room, rest with
      | 0, others => readTokens 0 (r.addExtra written) others
      | room + 1, ⟨_, .divider⟩ :: others => readTokens room (r.addOperand (some written)) others
      | room + 1, others =>
        readTokens room (r.addOperand (if written = "--" then none else some written)) others
  | ⟨written, .divider⟩ :: rest =>
    match room, rest with
    | room + 1, next :: others => readTokens room (r.addOperand (some next.written)) others
    | room, others =>
      if !g.commands.isEmpty && !others.isEmpty then
        .ok { r with command := some (written, others.map (·.written)) }
      else readTokens room (r.addExtra written) others
  | ⟨written, .unknown⟩ :: rest => readTokens room (r.addExtra written) rest
  | ⟨_, .switch s isShort value⟩ :: rest => do
    let b ← g.switchBundle s isShort value rest
    let r ← g.perform r b.switches
    match b.takesNext, rest with
    | true, _ :: others => readTokens room r others
    | _, others => readTokens room r others
termination_by tokens => tokens.length

/-- Reads arguments; all operands are wanted. -/
def read (arguments : List String) : Except Stop Reading := do
  let tokens ← (g.tokens arguments).mapError .refused
  let r ← g.readTokens g.operands.length .empty tokens
  let missing := (g.operands.drop r.operands.length).map (·.name)
  if missing.isEmpty then return r else throw (.refused (.missingOperands missing))

end Grammar

end Hallmark.CommandLine
