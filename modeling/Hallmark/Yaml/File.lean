/-
# Hallmark.Yaml.File -- values of files

A file is read as UTF-8 with every line end unified, and has the value of the document
that it holds.  The value is given by a `Loader`, of which only this is asked, that a text
without a character has none.  `loader` is the one that reads documents as this library does.
-/
import Hallmark.Yaml.Document

namespace Hallmark

set_option autoImplicit false

open Document

/-- A way to load the documents of texts. -/
structure Yaml.Loader where
  load : List Char → Except Yaml.Unreadable Value
  load_nil : load [] = .ok .none

/-- The files of a machine, and how their documents are loaded. -/
structure Files where
  storage : Storage
  loader : Yaml.Loader

namespace Yaml

def loader (order : SetOrder) : Loader := ⟨read order, rfl⟩

/-- Why a file has no value. -/
inductive FileProblem where
  | unreadable (cause : StorageFailure)
  | malformed
  | fault (f : Fault)

def readFile (files : Files) (path : Path) : Except FileProblem Value := do
  if path.shown.toList.contains nul then throw (.fault .nulInPath)
  let bytes ← (files.storage.read path).mapError .unreadable
  let text ← (Text.Utf8.decode bytes).mapError fun m => .fault (.encoding m)
  (files.loader.load (unifyLineEnds text)).mapError fun
    | .malformed => .malformed
    | .fault f => .fault f

end Yaml

end Hallmark
