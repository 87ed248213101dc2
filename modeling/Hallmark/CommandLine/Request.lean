/-
# Hallmark.CommandLine.Request -- what is asked for

`find` shows the metadata of a target and `match` compares it with a query.  A target is
a subject that a program declares, or an entity of a graph if a file with a graph is
named.  Without a command help is shown.
-/
import Hallmark.CommandLine.Arguments
import Hallmark.Settings

namespace Hallmark.CommandLine

set_option autoImplicit false

open Document

def help : Switch :=
  ⟨some 'h', "help", none, "show this help message and exit", .showHelp⟩

def graphFile : Switch :=
  ⟨some 'm', "model", some "MODEL", "YAML annotation graph to read the target from", .note⟩

def settingsFile : Switch :=
  ⟨some 'c', "config", some "CONFIG", "YAML configuration file", .note⟩

def verbose : Switch := ⟨some 'v', "verbose", none, "Enable debug logging", .note⟩

def version : Switch :=
  ⟨none, "version", none, "show program's version number and exit", .showVersion⟩

def programName : String := "metamatch"

def target : Entry :=
  ⟨"target", "Python target 'package.module:attribute', or an entity name with --model"⟩

def query : Entry := ⟨"query", "Query such as 'Service[scope=singleton]' or '*'"⟩

namespace Grammar

def find : Grammar := ⟨programName ++ " find", none, [help, graphFile], [target], []⟩

def «match» : Grammar := ⟨programName ++ " match", none, [help, graphFile], [target, query], []⟩

def main : Grammar where
  name := programName
  description := some "Discover declaration metadata and match it against queries"
  switches := [help, version, settingsFile, verbose]
  operands := []
  commands :=
    [⟨"find", "Show the metadata discovered for a target"⟩,
      ⟨"match", "Check a target against a metadata query"⟩]

end Grammar

/-- What is done with the target. -/
inductive Task where
  | find
  | compare (query : Value)

structure Command where
  task : Task
  target : Value
  /-- The name of a file, which is not empty. -/
  graph : Option String

structure Request where
  settings : Option Value
  isVerbose : Bool
  /-- None asks for help. -/
  command : Option Command

/-- What was written as a value; what has vanished is an empty list. -/
def operandValue (operand : Option String) : Value :=
  match operand with
  | some s => .text s
  | none => .list []

namespace Request

/-- A command with its arguments, and the arguments that are left over. -/
def commandOf (name : String) (arguments : List String) :
    Except Stop (Command × List String) := do
  let grammar ← match name with
    | "find" => pure Grammar.find
    | "match" => pure Grammar.match
    | _ => throw (.refused (.unknownCommand name (Grammar.main.commands.map (·.name))))
  let r ← grammar.read arguments
  let operand (place : Nat) : Value := operandValue (r.operands[place]?.join)
  let task := if name = "find" then Task.find else .compare (operand 1)
  let graph := (r.value? graphFile.long).join.filter (· ≠ "")
  return (⟨task, operand 0, graph⟩, r.extras)

def ofArguments (arguments : List String) : Except Stop Request := do
  let r ← Grammar.main.read arguments
  let request (command : Option Command) : Request :=
    ⟨(r.value? settingsFile.long).map operandValue, r.has verbose.long, command⟩
  let (command, extras) ← match r.command with
    | none => pure (none, [])
    | some (name, rest) => do
      let (command, extras) ← commandOf name rest
      pure (some command, extras)
  let extras := r.extras ++ extras
  if extras.isEmpty then return request command else throw (.refused (.unrecognized extras))

/-- The files that a request may read, by name. -/
def files (request : Request) (env : Environment) : List String :=
  ((request.settings.bind Value.text?) <|> env.get? Settings.fileVariable).toList
    ++ (request.command.bind (·.graph)).toList

end Request

end Hallmark.CommandLine
