/-
# Hallmark.CommandLine.Run -- answering requests

A request first finds its settings, then the level from which on events are shown, then
the target.  `find` succeeds if there is metadata and `match` if the query is met; both
end with status 1 otherwise.  Whatever goes wrong ends with status 2 and one line that
says what, and so does an answer that cannot be printed.
-/
import Hallmark.CommandLine.Console
import Hallmark.CommandLine.Request
import Hallmark.Graph.Load
import Hallmark.Graph.Lookup
import Hallmark.Matching
import Hallmark.Program.Import

namespace Hallmark.CommandLine

set_option autoImplicit false

open Document

/-! ## Levels -/

/-- The levels of a log, by name. -/
def levels : List (String × Nat) :=
  [("TRACE", 5), ("DEBUG", 10), ("INFO", 20), ("SUCCESS", 25), ("WARNING", 30), ("ERROR", 40),
    ("CRITICAL", 50)]

def levelOf (name : String) : Except Fault Nat :=
  match levels.lookup name with
  | some n => .ok n
  | none => .error (.unknownLevel name)

/-- The level from which on events are shown. -/
def threshold (request : Request) (c : Settings) : Except Fault Nat :=
  levelOf (if request.isVerbose then Level.debug.name else c.logLevel)

def isShown (least : Nat) (e : Event) : Bool :=
  (levels.lookup e.level.name).any fun n => least ≤ n

/-! ## Answers -/

structure Answer where
  status : Nat
  lines : List String

def found : Option Descriptor → Answer
  | none => ⟨1, ["no metadata"]⟩
  | some d => ⟨0, ("kind: " ++ d.kind) :: d.properties.map fun p => "  " ++ p.shown⟩

def compared : Bool → Answer
  | true => ⟨0, ["true"]⟩
  | false => ⟨1, ["false"]⟩

variable {E A T : Type} [DecidableEq T]

/-- A task for an entity of a model. -/
def perform (M : Model E A T) (c : Settings) (e : E) : Task → Traced Fault Answer
  | .find => found <$> M.describe c e
  | .compare query => compared <$> M.meets c e query

/-! ## Targets -/

/-- An answer, or the text of what went wrong. -/
abbrev Attempt := Traced String

def attempt {ε α : Type} (message : ε → String) (t : Traced ε α) : Attempt α :=
  t.mapError message

def faulty {α : Type} (t : Traced Fault α) : Attempt α := attempt Fault.message t

def failing {ε α : Type} (message : ε → String) (t : Traced (Failure ε) α) : Attempt α :=
  attempt (Failure.message message) t

/-- The subject that a target names. -/
def subject (program : Program) (target : Value) :
    Except (Failure Program.ImportError) Program.Subject :=
  match target with
  | .text written => program.find written
  | v => .error (.fault (.noMember v.sortName "partition"))

def answerCommand (program : Program) (files : Files) (c : Settings) (command : Command) :
    Attempt Answer := do
  match command.graph with
  | some file =>
    let g ← failing Graph.LoadError.message (Graph.ofFile files file c.metadataType)
    let e ← failing Graph.UnknownEntity.message (Traced.ofExcept (g.find command.target))
    faulty (perform g.model c e command.task)
  | none =>
    let s ← failing Program.ImportError.message (Traced.ofExcept (subject program command.target))
    faulty (perform program.model c s command.task)

/-! ## Outcomes -/

structure Outcome where
  status : Nat
  output : String
  diagnostics : List String

/-- The lines of what is said besides the answer. -/
def Outcome.diagnosticLines (o : Outcome) : List String :=
  ((o.diagnostics.flatMap fun d => Text.lines (d.toList ++ ['\n']))).map String.ofList

/-- What an answer looks like when it is printed, or why there is none, after some diagnostics. -/
def conclude (console : Console) (shown : List String) : Except String Answer → Outcome
  | .error message => ⟨2, "", shown ++ ["Error: " ++ message]⟩
  | .ok a =>
    match console.print a.lines with
    | (output, none) => ⟨a.status, output, shown⟩
    | (output, some complaint) => ⟨2, output, shown ++ ["Error: " ++ complaint]⟩

/-- What an attempt looks like when events are shown from a level on. -/
def outcome (console : Console) (least : Nat) (t : Attempt Answer) : Outcome :=
  let shown := (t.events.filter (isShown least)).map fun e => e.level.name ++ ": " ++ e.message
  conclude console shown t.answer

def failed (message : String) : Outcome := ⟨2, "", ["Error: " ++ message]⟩

/-- The settings that a request asks for. -/
def settings (files : Files) (env : Environment) (request : Request) :
    Except (Failure SettingsError) Settings :=
  match request.settings with
  | none => Settings.ofSources files env none
  | some (.text file) => Settings.ofSources files env (some file)
  | some v => .error (.fault (.notPath v))

def run (program : Program) (console : Console) (files : Files) (env : Environment)
    (request : Request) : Outcome :=
  match settings files env request with
  | .error e => failed (e.message SettingsError.message)
  | .ok c =>
    match threshold request c with
    | .error f => failed f.message
    | .ok least =>
      match request.command with
      | none => ⟨0, Grammar.main.helpPage, []⟩
      | some command => outcome console least (answerCommand program files c command)

/-- The outcome of a command line; a page that is shown is a success. -/
def answer (program : Program) (console : Console) (files : Files) (env : Environment)
    (arguments : List String) : Except UsageError Outcome :=
  match Request.ofArguments arguments with
  | .ok request => .ok (run program console files env request)
  | .error (.helpPage page) => .ok ⟨0, page, []⟩
  | .error .version => .ok ⟨0, programName ++ " " ++ Program.Library.version ++ "\n", []⟩
  | .error (.refused e) => .error e

end Hallmark.CommandLine
