/-
# Hallmark.Proofs.Yaml.File -- what reading a file comes to

Reading a file comes to exactly one of the ends of `Gives`, each with what has to be so of the
path, the storage, the octets and the document (`gives_iff`), whichever loader gives documents
their values.
-/
import Hallmark.Yaml.File

namespace Hallmark

set_option autoImplicit false

open Document

namespace Yaml

variable {files : Files} {path : Path} {r : Except FileProblem Value}

/-- The characters that a file is read as. -/
def TextAt (files : Files) (path : Path) (text : List Char) : Prop :=
  nul ∉ path.shown.toList ∧
    ∃ bytes, files.storage.read path = .ok bytes ∧ Text.Utf8.decode bytes = .ok text

/-- What reading a file comes to. -/
inductive Gives (files : Files) (path : Path) : Except FileProblem Value → Prop where
  | nulInPath (cut : nul ∈ path.shown.toList) : Gives files path (.error (.fault .nulInPath))
  | unreadable {cause : StorageFailure} (plain : nul ∉ path.shown.toList)
    (failed : files.storage.read path = .error cause) : Gives files path (.error (.unreadable cause))
  | undecodable {bytes : List UInt8} {m : Text.Utf8.Malformed} (plain : nul ∉ path.shown.toList)
    (opened : files.storage.read path = .ok bytes) (failed : Text.Utf8.decode bytes = .error m) :
    Gives files path (.error (.fault (.encoding m)))
  | malformed {text : List Char} (written : TextAt files path text)
    (failed : files.loader.load (unifyLineEnds text) = .error .malformed) :
    Gives files path (.error .malformed)
  | valueless {text : List Char} {f : Fault} (written : TextAt files path text)
    (failed : files.loader.load (unifyLineEnds text) = .error (.fault f)) :
    Gives files path (.error (.fault f))
  | value {text : List Char} {v : Value} (written : TextAt files path text)
    (valued : files.loader.load (unifyLineEnds text) = .ok v) : Gives files path (.ok v)

/-- A path without a null character is opened, and what is there is decoded and read. -/
theorem readFile_of_plain (plain : nul ∉ path.shown.toList) : readFile files path = (do
    let bytes ← (files.storage.read path).mapError .unreadable
    let text ← (Text.Utf8.decode bytes).mapError fun m => .fault (.encoding m)
    (files.loader.load (unifyLineEnds text)).mapError fun
      | .malformed => .malformed
      | .fault f => .fault f) := by
  have no_nul : path.shown.toList.contains nul = false := by simpa using plain
  unfold readFile
  rw [no_nul]
  rfl

theorem readFile_of_textAt {text : List Char} (written : TextAt files path text) :
    readFile files path = (files.loader.load (unifyLineEnds text)).mapError fun
      | .malformed => .malformed
      | .fault f => .fault f := by
  obtain ⟨plain, bytes, opened, decoded⟩ := written
  rw [readFile_of_plain plain, opened]
  change (Text.Utf8.decode bytes).mapError _ >>= _ = _
  rw [decoded]
  rfl

theorem Gives.eq (gives : Gives files path r) : readFile files path = r := by
  cases gives with
  | nulInPath cut =>
    have has_nul : path.shown.toList.contains nul = true := by simpa using cut
    unfold readFile
    rw [has_nul]
    rfl
  | unreadable plain failed =>
    rw [readFile_of_plain plain, failed]
    rfl
  | undecodable plain opened failed =>
    rw [readFile_of_plain plain, opened]
    change (Text.Utf8.decode _).mapError _ >>= _ = _
    rw [failed]
    rfl
  | malformed written failed =>
    rw [readFile_of_textAt written, failed]
    rfl
  | valueless written failed =>
    rw [readFile_of_textAt written, failed]
    rfl
  | value written valued =>
    rw [readFile_of_textAt written, valued]
    rfl

theorem exists_gives (files : Files) (path : Path) : ∃ r, Gives files path r := by
  by_cases plain : nul ∈ path.shown.toList
  · exact ⟨_, .nulInPath plain⟩
  · cases opened : files.storage.read path with
    | error cause => exact ⟨_, .unreadable plain opened⟩
    | ok bytes =>
      cases decoded : Text.Utf8.decode bytes with
      | error m => exact ⟨_, .undecodable plain opened decoded⟩
      | ok text =>
        have written : TextAt files path text := ⟨plain, bytes, opened, decoded⟩
        rcases valued : files.loader.load (unifyLineEnds text) with (_ | f) | v
        · exact ⟨_, .malformed written valued⟩
        · exact ⟨_, .valueless written valued⟩
        · exact ⟨_, .value written valued⟩

theorem gives_iff : Gives files path r ↔ readFile files path = r := by
  refine ⟨Gives.eq, ?_⟩
  rintro rfl
  obtain ⟨r, gives⟩ := exists_gives files path
  exact gives.eq ▸ gives

end Yaml

end Hallmark
