/-
# Hallmark.Storage -- named files and the paths that reach them

A path is normalised when it is written down: empty and `.` steps vanish, `..` stays,
and two leading slashes are kept apart from one.  A storage gives the octets at a path
or says why there are none.

A `Tree` is a storage of folders and files below a working folder.  Reading follows the
steps of a path one by one, so a step through a missing folder or through a file fails
even where a later `..` would undo it.  Nothing is known outside the working folder but
that there are folders, and at the root those that are found everywhere, with the empty
file `/dev/null` in one of them.
-/
import Hallmark.Text.Utf8
import Hallmark.Text.Split

namespace Hallmark

set_option autoImplicit false

structure Path where
  root : String
  steps : List String
deriving DecidableEq, Repr

namespace Path

def ofText (s : String) : Path :=
  let cs := s.toList
  let slashes := (cs.takeWhile (· = '/')).length
  let root := if slashes = 0 then "" else if slashes = 2 then "//" else "/"
  let steps := (Text.pieces '/' cs).map String.ofList
  ⟨root, steps.filter fun step => step ≠ "" ∧ step ≠ "."⟩

def shown (p : Path) : String :=
  if p.root = "" ∧ p.steps = [] then "." else p.root ++ "/".intercalate p.steps

end Path

inductive Entry where
  | folder
  | file (bytes : List UInt8)
deriving DecidableEq, Repr

/-- Why a path cannot be read. -/
inductive StorageFailure where
  | missing
  | folder
  | notFolder
  | nameTooLong
deriving DecidableEq, Repr

structure Storage where
  read : Path → Except StorageFailure (List UInt8)

/-- Entries by their steps below the working folder. -/
structure Tree where
  entries : List (List String × Entry)

namespace Tree

/-- The entry at some steps; every entry's ancestors are folders. -/
def entryAt? (t : Tree) (steps : List String) : Option Entry :=
  match t.entries.lookup steps with
  | some entry => some entry
  | none =>
    if steps = [] ∨ t.entries.any (fun e => steps.isPrefixOf e.1) then some .folder else none

/-- How many octets a name may have. -/
def longestName : Nat := 255

/-- How many octets a path may have. -/
def longestPath : Nat := 4095

def isTooLong (step : String) : Bool := longestName < step.utf8ByteSize

/-- What there is at a step for which nothing is known. -/
def unknown (step : String) : StorageFailure := if isTooLong step then .nameTooLong else .missing

/-- Follows steps above the working folder. -/
def outside (steps : List String) : Except StorageFailure (List UInt8) :=
  match steps.find? (· ≠ "..") with
  | none => .error .folder
  | some step => .error (unknown step)

/-- The folders that are found at every root. -/
def rootFolders : List String :=
  ["bin", "dev", "etc", "home", "lib", "opt", "proc", "run", "sbin", "sys", "tmp", "usr", "var"]

/-- Follows steps from the root, where it has come to a folder. -/
def fromRoot : List String → List String → Except StorageFailure (List UInt8)
  | _, [] => .error .folder
  | here, ".." :: rest => fromRoot here.tail rest
  | [], step :: rest =>
    if step ∈ rootFolders then fromRoot [step] rest else .error (unknown step)
  | here, step :: rest =>
    if here = ["dev"] ∧ step = "null" then if rest = [] then .ok [] else .error .notFolder
    else .error (unknown step)

/-- Follows steps from the folder at `here`, given innermost first. -/
def follow (t : Tree) : List String → List String → Except StorageFailure (List UInt8)
  | _, [] => .error .folder
  | [], ".." :: rest => outside rest
  | _ :: above, ".." :: rest => follow t above rest
  | here, step :: rest =>
    match t.entryAt? (step :: here).reverse with
    | none => .error (unknown step)
    | some .folder => follow t (step :: here) rest
    | some (.file bytes) => if rest = [] then .ok bytes else .error .notFolder

def read (t : Tree) (p : Path) : Except StorageFailure (List UInt8) :=
  if longestPath < p.shown.utf8ByteSize then .error .nameTooLong
  else if p.root = "" then t.follow [] p.steps
  else fromRoot [] p.steps

end Tree

/-- The storage of a working folder with some entries. -/
def Storage.ofEntries (entries : List (String × Entry)) : Storage :=
  ⟨Tree.read ⟨entries.map fun e => ((Path.ofText e.1).steps, e.2)⟩⟩

/-- Every line ends in a line feed alone. -/
def unifyLineEnds : List Char → List Char
  | '\r' :: '\n' :: rest => '\n' :: unifyLineEnds rest
  | '\r' :: rest => '\n' :: unifyLineEnds rest
  | c :: rest => c :: unifyLineEnds rest
  | [] => []

/-- Variables by name; one that is empty counts as not set. -/
abbrev Environment := List (String × String)

def Environment.get? (env : Environment) (name : String) : Option String :=
  (env.lookup name).filter (· ≠ "")

end Hallmark
