/-
# Hallmark.Proofs.Graph.Loading -- how loading a graph ends

Reading a file comes to one of the ends of `Yaml.Gives`, whichever loader it is read by.  Loading
a graph from the file returns if that is a value which is empty or describes a graph.  It refuses
what cannot be opened, what is no document and a value of another shape.

Everything else escapes as a fault: octets that are not UTF-8, a scalar of the document that has
no value, and a document of which a name is needed that cannot be given (`loading_ends`).  An
empty value loads as a graph with nothing in it, whether or not it is a mapping.
-/
import Hallmark.Proofs.Graph.Shape
import Hallmark.Proofs.Yaml.File

namespace Hallmark

set_option autoImplicit false

open Document

namespace Graph

theorem wellFormed_nil : WellFormed [] :=
  ⟨nofun, ⟨[], .leftOut nofun, nofun⟩, [], .leftOut nofun, nofun⟩

theorem ofMapping_wellFormed_empty : OfMapping WellFormed (.map []) := ⟨[], rfl, wellFormed_nil⟩

theorem not_unnamed_empty : ¬ OfMapping Unnamed (.map []) := by
  rw [← faults_ofValue_iff ""]
  rintro ⟨f, fails⟩
  obtain ⟨g, returned⟩ := (returns_ofValue_iff "" _).2 ofMapping_wellFormed_empty
  cases fails.symm.trans returned

theorem answer_ofFile (files : Files) (name : String) (metadataType : Value) :
    (ofFile files name metadataType).answer = (do
      let v ← documentOf files (Path.ofText name)
      (ofValue metadataType v).answer) := by
  rw [ofFile, Traced.answer_bind, Traced.answer_ofExcept]

section Ends

variable (files : Files) (name metadataType : String)

theorem ofValue_ends (v : Value) :
    EndsAs (ofValue (.text metadataType) v).answer (OfMapping WellFormed v)
      (¬ OfMapping WellFormed v ∧ ¬ OfMapping Unnamed v) (OfMapping Unnamed v) where
  returns_iff := returns_ofValue_iff metadataType v
  refuses_iff := by rw [refuses_iff, returns_ofValue_iff, faults_ofValue_iff]
  faults_iff := faults_ofValue_iff metadataType v

/-- Reading a graph ends with it, with a refusal or with a fault, and so does loading one. -/
theorem loading_ends :
    (∀ v, EndsAs (ofValue (.text metadataType) v).answer (OfMapping WellFormed v)
      (¬ OfMapping WellFormed v ∧ ¬ OfMapping Unnamed v) (OfMapping Unnamed v)) ∧
    EndsAs (ofFile files name (.text metadataType)).answer
      (∃ v, Yaml.Gives files (Path.ofText name) (.ok v) ∧
        (v.isTrue = true → OfMapping WellFormed v))
      ((∃ cause, Yaml.Gives files (Path.ofText name) (.error (.unreadable cause))) ∨
        Yaml.Gives files (Path.ofText name) (.error .malformed) ∨
        ∃ v, Yaml.Gives files (Path.ofText name) (.ok v) ∧ v.isTrue = true ∧
          ¬ OfMapping WellFormed v ∧ ¬ OfMapping Unnamed v)
      ((∃ f, Yaml.Gives files (Path.ofText name) (.error (.fault f))) ∨
        ∃ v, Yaml.Gives files (Path.ofText name) (.ok v) ∧ v.isTrue = true ∧
          OfMapping Unnamed v) := by
  refine ⟨ofValue_ends metadataType, ?_⟩
  simp only [Yaml.gives_iff, answer_ofFile, documentOf]
  rcases read : Yaml.readFile files (Path.ofText name) with (cause | _ | f) | v
  · constructor <;> simp [Returns, Refuses, Faults, bind, Except.bind]
  · constructor <;> simp [Returns, Refuses, Faults, bind, Except.bind]
  · constructor <;> simp [Returns, Refuses, Faults, bind, Except.bind]
  · have bound : ∀ w, (do
        let u ← (.ok w : Except (Failure LoadError) Value)
        (ofValue (.text metadataType) u).answer) = (ofValue (.text metadataType) w).answer :=
      fun _ => rfl
    -- an empty value is read as a mapping without entries, every other one as it is
    have ends := ofValue_ends metadataType
    cases filled : v.isTrue with
    | false =>
      constructor
      · simp [filled, bound, (ends _).returns_iff, ofMapping_wellFormed_empty]
      · simp [filled, bound, (ends _).refuses_iff, ofMapping_wellFormed_empty]
      · simp [filled, bound, (ends _).faults_iff, not_unnamed_empty]
    | true =>
      constructor
      · simp [filled, bound, (ends _).returns_iff]
      · simp [filled, bound, (ends _).refuses_iff]
      · simp [filled, bound, (ends _).faults_iff]

end Ends

/-! A file with an octet that no text begins with, a mapping with a key that is no text, and a
file with an empty list. -/

namespace Unfit

def files : Files where
  storage := .ofEntries [("octet.yaml", .file [0xff]), ("list.yaml", .file [0x5b, 0x5d])]
  loader := Yaml.loader .asGiven

theorem loading_escapes :
    (ofFile files "octet.yaml" (.text "m")).answer =
      .error (.fault (.encoding ⟨0xff, 0, 1, .start⟩)) ∧
    (ofValue (.text "m") (.map [(.whole 1, .none)])).answer =
      .error (.fault (.notJoinable 0 (.whole 1))) ∧
    (ofFile files "list.yaml" (.text "m")).answer = .ok ⟨[], [], [(.text "m", metadataDefaults)]⟩ :=
  ⟨rfl, rfl, rfl⟩

end Unfit

end Graph

end Hallmark
