/-
# Hallmark.Graph.Load -- graphs from documents

A graph document is a mapping with at most two sections, `types` and `entities`, each
of which maps names to declarations.  A declaration is nothing or a mapping; it may list
annotations, each of them the name of a type or a mapping with a `type` and perhaps
`attributes`, and the declaration of a type may give `defaults`.  Whatever is empty
counts as left out.  Types are read before entities, and the first defect is reported.
-/
import Hallmark.Graph.Basic
import Hallmark.Settings

namespace Hallmark.Graph

set_option autoImplicit false

open Document

/-- What a declaration declares. -/
inductive Owner where
  | type (name : Value)
  | entity (name : Value)

def Owner.shown : Owner → String
  | .type name => "type " ++ name.display
  | .entity name => "entity " ++ name.display

inductive LoadError where
  | notMapping
  | unknownKeys (names : List String)
  | notSection (key : String)
  | declaration (owner : Owner)
  | annotations (owner : Owner)
  | untyped (owner : Owner)
  | attributes (owner : Owner) (type : String)
  | defaults (owner : Owner)
  | unreadable (path : Path) (cause : StorageFailure)
  | malformed (path : Path)

def LoadError.message : LoadError → String
  | .notMapping => "Annotation graph must be a mapping"
  | .unknownKeys names => "Unknown top-level keys: " ++ commaSeparated names
  | .notSection key => "'" ++ key ++ "' must be a mapping of name -> declaration"
  | .declaration owner => owner.shown ++ ": declaration must be a mapping"
  | .annotations owner => owner.shown ++ ": annotations must be a list"
  | .untyped owner => owner.shown ++ ": each annotation needs a 'type' name"
  | .attributes owner type => owner.shown ++ ": attributes of " ++ type ++ " must be a mapping"
  | .defaults owner => owner.shown ++ ": defaults must be a mapping"
  | .unreadable path cause =>
    "Cannot read annotation graph " ++ path.shown ++ ": " ++ cause.message path.shown
  | .malformed path => "Invalid YAML in annotation graph " ++ path.shown

/-- What a mapping holds under a name; nothing if that is empty. -/
def filled? (d : Attributes) (key : String) : Option Value :=
  (d.get? (.text key)).filter Value.isTrue

/-- A mapping that may be left out. -/
def mappingAt (d : Attributes) (key : String) (defect : LoadError) :
    Except LoadError Attributes :=
  match filled? d key with
  | none => .ok []
  | some v =>
    match v.entries? with
    | some entries => .ok entries
    | none => .error defect

def declarationOf (owner : Owner) : Value → Except LoadError Attributes
  | .none => .ok []
  | v =>
    match v.entries? with
    | some entries => .ok entries
    | none => .error (.declaration owner)

def annotationOf (owner : Owner) : Value → Except LoadError Annotation
  | .text type => .ok ⟨type, []⟩
  | v =>
    match v.entries?.bind fun entries => (entries.get? (.text "type")).map (entries, ·) with
    | some (entries, .text type) =>
      (⟨type, ·⟩) <$> mappingAt entries "attributes" (.attributes owner type)
    | _ => .error (.untyped owner)

def annotationsOf (owner : Owner) (declaration : Attributes) :
    Except LoadError (List Annotation) :=
  match (filled? declaration "annotations").map Value.opened with
  | none => .ok []
  | some (.list items) => items.mapM (annotationOf owner)
  | some _ => .error (.annotations owner)

structure TypeDeclaration where
  annotations : List Annotation
  defaults : Attributes

/-- What is named, if the name can be written. -/
def named (owner : Value → Owner) (name : Value) : Except (Failure LoadError) Owner :=
  owner <$> name.written.mapError .fault

def typeOf (entry : Value × Value) : Except (Failure LoadError) (Value × TypeDeclaration) := do
  let owner ← named .type entry.1
  let read : Except LoadError TypeDeclaration := do
    let declaration ← declarationOf owner entry.2
    let annotations ← annotationsOf owner declaration
    return ⟨annotations, ← mappingAt declaration "defaults" (.defaults owner)⟩
  return (entry.1, ← read.mapError .refused)

def entityOf (entry : Value × Value) : Except (Failure LoadError) (Value × List Annotation) := do
  let owner ← named .entity entry.1
  let read : Except LoadError (List Annotation) := do
    annotationsOf owner (← declarationOf owner entry.2)
  return (entry.1, ← read.mapError .refused)

def isSection (v : Value) : Bool := v == .text "types" || v == .text "entities"

def unknownKeys (document : Attributes) : Except (Failure LoadError) Unit := do
  let unknown := document.keys.filter (!isSection ·)
  if !unknown.isEmpty then
    throw (.refused (.unknownKeys (Settings.sortNames (← (allText unknown).mapError .fault))))

/-- The declarations of a document. -/
structure Declarations where
  types : List (Value × TypeDeclaration)
  entities : List (Value × List Annotation)

def sectionOf (document : Attributes) (key : String) : Except (Failure LoadError) Attributes :=
  (mappingAt document key (.notSection key)).mapError .refused

def declarations (document : Attributes) : Except (Failure LoadError) Declarations := do
  let types ← (← sectionOf document "types").mapM typeOf
  let entities ← (← sectionOf document "entities").mapM entityOf
  return ⟨types, entities⟩

def Declarations.graph (d : Declarations) (metadataType : Value) : Except Fault Graph :=
  complete d.entities (d.types.map fun e => (e.1, e.2.annotations))
    (d.types.map fun e => (e.1, e.2.defaults)) metadataType

/-- The graph that a value describes. -/
def ofValue (metadataType : Value) (v : Value) : Traced (Failure LoadError) Graph := do
  match v.entries? with
  | some document => do
    Traced.ofExcept (unknownKeys document)
    let d ← Traced.ofExcept (declarations document)
    Traced.report (.loaded d.entities.length d.types.length)
    Traced.ofExcept ((d.graph metadataType).mapError .fault)
  | none => Traced.ofExcept (.error (.refused .notMapping))

/-- The value of a graph file, an empty one counting as an empty graph. -/
def documentOf (files : Files) (path : Path) : Except (Failure LoadError) Value :=
  match Yaml.readFile files path with
  | .ok v => .ok (if v.isTrue then v else .map [])
  | .error (.unreadable cause) => .error (.refused (.unreadable path cause))
  | .error .malformed => .error (.refused (.malformed path))
  | .error (.fault f) => .error (.fault f)

/-- The graph that a file describes. -/
def ofFile (files : Files) (name : String) (metadataType : Value) :
    Traced (Failure LoadError) Graph := do
  ofValue metadataType (← Traced.ofExcept (documentOf files (Path.ofText name)))

end Hallmark.Graph
