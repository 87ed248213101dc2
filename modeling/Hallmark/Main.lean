/-
# Hallmark.Main -- the command line as a program

Reads the environment and the files that a request names, and shows its outcome.
-/
import Hallmark.CommandLine.Run

namespace Hallmark

set_option autoImplicit false

open CommandLine

/-- The octets of a file, or the failure that reading it meets. -/
def readOctets (name : String) : IO (Except StorageFailure (List UInt8)) := do
  try
    return .ok (← IO.FS.readBinFile name).toList
  catch
    | .inappropriateType _ code _ => return .error (if code = 21 then .folder else .notFolder)
    | .invalidArgument _ code _ => return .error (if code = 36 then .nameTooLong else .missing)
    | _ => return .error .missing

/-- A storage that holds what some files hold now. -/
def currentStorage (names : List String) : IO Storage := do
  let entries ← names.mapM fun name => do
    let path := Path.ofText name
    return (path, ← readOctets path.shown)
  return ⟨fun path => (entries.lookup path).getD (.error .missing)⟩

def currentEnvironment : IO Environment :=
  Settings.variableNames.filterMapM fun name => do
    return (← IO.getEnv name).map fun value => (name, value)

def showOutcome (o : Outcome) : IO UInt32 := do
  IO.print o.output
  for line in o.diagnostics do IO.eprintln line
  return o.status.toUInt32

end Hallmark

open Hallmark CommandLine in
def main (arguments : List String) : IO UInt32 := do
  let env ← currentEnvironment
  let names := match Request.ofArguments arguments with
    | .ok request => request.files env
    | .error _ => []
  let files : Files := ⟨← currentStorage names, Yaml.loader .asGiven⟩
  match answer Program.initial .utf8 files env arguments with
  | .ok o => showOutcome o
  | .error e => do
    IO.eprintln Grammar.main.usageLine
    IO.eprintln (programName ++ ": error: " ++ e.message)
    return 2
