/-
# Hallmark.Settings -- what governs a search

Settings name the annotation type that carries metadata, the prefixes of type names
that a search never enters, how many types deep it goes, and the level of the log.
They come from arguments, from a file or from the defaults, and variables of the
environment override each of the four on its own.  The depth limit is positive by
construction; every other value is kept as given, so that a prefix that is no text
shows only when a name is tested against it.
-/
import Hallmark.Yaml.File
import Hallmark.Text.Upper

namespace Hallmark

set_option autoImplicit false

open Document

/-- A limit of at least one level, and the value that it was written as. -/
structure DepthLimit where
  levels : Nat
  written : Value
  positive : 1 ≤ levels

/-- Whole numbers from one on; the true truth value counts as one. -/
def DepthLimit.ofValue? (v : Value) : Option DepthLimit :=
  match v with
  | .whole n => if h : 1 ≤ n.toNat then some ⟨n.toNat, v, h⟩ else none
  | .truth true => some ⟨1, v, Nat.le_refl 1⟩
  | _ => none

structure Settings where
  metadataType : Value
  reserved : List Value
  depth : DepthLimit
  logLevel : String

inductive SettingsError where
  | depth (v : Value)
  | depthText (written : String)
  | unreadable (path : Path) (cause : StorageFailure)
  | malformed (path : Path)
  | notMapping (path : Path)
  | unknownKeys (names : List String)
deriving Repr

def SettingsError.message : SettingsError → String
  | .depth v => "max_depth must be a positive integer, got " ++ v.literal
  | .depthText written => "METAMATCH_MAX_DEPTH must be an integer, got " ++ Text.quoted written
  | .unreadable path cause =>
    "Cannot read config file " ++ path.shown ++ ": " ++ cause.message path.shown
  | .malformed path => "Invalid YAML in config file " ++ path.shown
  | .notMapping path => "Config file " ++ path.shown ++ " must contain a mapping"
  | .unknownKeys names => "Unknown config keys: " ++ commaSeparated names

namespace Settings

def defaultMetadataType : String := "metamatch.api.MetaData"

/-- The namespace of the annotations that describe annotation types. -/
def builtinNamespace : String := "metamatch.annotations.builtin."

def default : Settings where
  metadataType := .text defaultMetadataType
  reserved := [.text builtinNamespace]
  depth := ⟨64, .whole 64, by decide⟩
  logLevel := "WARNING"

def fields : List String := ["metadata_type", "reserved_prefixes", "max_depth", "log_level"]

/-! ## Reserved names -/

def hasPrefix (name start : String) : Bool := start.toList.isPrefixOf name.toList

/-- Whether a name starts with one of several texts, tried in order. -/
def startsWithAny (name : String) : List Value → Except Fault Bool
  | [] => .ok false
  | .text start :: rest => if hasPrefix name start then .ok true else startsWithAny name rest
  | v :: _ => .error (.notPrefixPart v)

def startsWith (name : String) : Value → Except Fault Bool
  | .text start => .ok (hasPrefix name start)
  | .tuple starts => startsWithAny name starts
  | v => .error (.notPrefix v)

def isReservedBy (name : String) : List Value → Except Fault Bool
  | [] => .ok false
  | v :: rest => do if ← startsWith name v then .ok true else isReservedBy name rest

def isReserved (s : Settings) (name : String) : Except Fault Bool := isReservedBy name s.reserved

/-! ## Sources -/

/-- A lone text is one prefix; every other collection is its items. -/
def prefixesOf : Value → Except Fault (List Value)
  | .text s => .ok [.text s]
  | v => v.items

/-- A limit, or the refusal of a value that is none. -/
def depthOf (v : Value) : Except (Failure SettingsError) DepthLimit :=
  match DepthLimit.ofValue? v, v.written with
  | some depth, _ => .ok depth
  | none, .ok v => .error (.refused (.depth v))
  | none, .error f => .error (.fault f)

def ofFields (given : Dictionary Value Value) : Except (Failure SettingsError) Settings := do
  let field (name : String) := given.get? (.text name)
  let reserved ← match field "reserved_prefixes" with
    | some v => (prefixesOf v).mapError .fault
    | none => pure default.reserved
  let depth ← match field "max_depth" with
    | some v => depthOf v
    | none => pure default.depth
  let logLevel ← match field "log_level" with
    | some v => Value.display <$> v.written.mapError .fault
    | none => pure default.logLevel
  return {
    metadataType := (field "metadata_type").getD default.metadataType
    reserved := reserved
    depth := depth
    logLevel := Text.upper logLevel }

def isField (v : Value) : Bool := fields.any fun name => v == .text name

/-- Settings from named arguments. -/
def ofArguments (given : Dictionary Value Value) : Except (Failure SettingsError) Settings := do
  for key in given.keys do
    if key.text?.isNone then throw (.fault (.notName key))
  for key in given.keys do
    if !isField key then throw (.fault (.unknownArgument "MatchConfig" key.display))
  ofFields given

/-- Names in ascending order. -/
def sortNames (names : List String) : List String :=
  names.mergeSort fun a b => !Text.precedes b a

def ofMapping (given : Dictionary Value Value) : Except (Failure SettingsError) Settings := do
  let unknown := given.keys.filter (!isField ·)
  if !unknown.isEmpty then
    let names ← (allText unknown).mapError .fault
    throw (.refused (.unknownKeys (sortNames names)))
  ofFields given

/-- The prefixes between commas, trimmed, without the empty ones. -/
def prefixesOfText (s : String) : List Value :=
  ((Text.pieces ',' s.toList).map Text.trim).filter (!·.isEmpty)
    |>.map fun piece => .text (String.ofList piece)

/-! The variables of the environment. -/

def fileVariable : String := "METAMATCH_CONFIG"

def depthVariable : String := "METAMATCH_MAX_DEPTH"

def typeVariable : String := "METAMATCH_METADATA_TYPE"

def prefixesVariable : String := "METAMATCH_RESERVED_PREFIXES"

def levelVariable : String := "METAMATCH_LOG_LEVEL"

def variableNames : List String :=
  [fileVariable, depthVariable, typeVariable, prefixesVariable, levelVariable]

def depthOfText (s : String) : Except (Failure SettingsError) DepthLimit :=
  match Text.readWhole? 10 s.toList with
  | none => .error (.refused (.depthText s))
  | some n => depthOf (.whole n)

/-- The settings with what the environment sets. -/
def override (s : Settings) (env : Environment) : Except (Failure SettingsError) Settings := do
  let depth ← match env.get? depthVariable with
    | some written => depthOfText written
    | none => pure s.depth
  return {
    metadataType := ((env.get? typeVariable).map .text).getD s.metadataType
    reserved := ((env.get? prefixesVariable).map prefixesOfText).getD s.reserved
    depth := depth
    logLevel := ((env.get? levelVariable).map Text.upper).getD s.logLevel }

def ofEnvironment (env : Environment) : Except (Failure SettingsError) Settings :=
  default.override env

def ofFile (files : Files) (env : Environment) (name : String) :
    Except (Failure SettingsError) Settings := do
  let path := Path.ofText name
  let document ← (Yaml.readFile files path).mapError fun
    | .unreadable cause => .refused (.unreadable path cause)
    | .malformed => .refused (.malformed path)
    | .fault f => .fault f
  match document with
  | .none => (← ofMapping []).override env
  | v =>
    match v.entries? with
    | some entries => (← ofMapping entries).override env
    | none => throw (.refused (.notMapping path))

/-- Settings from the named file, else from the file that the environment names, else
from the environment alone. -/
def ofSources (files : Files) (env : Environment) (name : Option String) :
    Except (Failure SettingsError) Settings :=
  match name <|> env.get? fileVariable with
  | some file => ofFile files env file
  | none => ofEnvironment env

end Settings

end Hallmark
