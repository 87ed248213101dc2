/-
# Hallmark.Program.Library -- the modules that come with a program

The modules of the library are there before a program declares anything.  Packages hold
the modules below them; the annotation types, the other classes, the functions and a few
values are members of the modules that declare them and of those that pass them on.
Nothing is ever added to them.
-/
import Hallmark.Program.Attach
import Hallmark.Settings

namespace Hallmark.Program

set_option autoImplicit false

open Document

/-- The name of a member, and what it is. -/
abbrev Member := String × Subject

structure LibraryModule where
  name : String
  isPackage : Bool
  members : List Member

namespace Library

/-! ## Annotation types -/

def base : Member := ("Annotation", .type .base)

def documented : Member := ("Documented", .type .documented)

def target : Member := ("Target", .type .target)

def inherited : Member := ("Inherited", .type .inherited)

def metadata : Member := ("MetaData", .type .metadata)

def selection : Member := ("Where", .type .selection)

/-! ## Values -/

/-- A text under a name. -/
def constant (name value : String) : Member := (name, .value (.text value))

def attributeName : Member := constant "ANNOTATIONS_ATTR" annotationsAttribute

def kinds : Member := ("TARGET_KINDS", .value everyKind)

def matchesAll : Member := constant "ALWAYS_MATCH" Query.matchAll

def anyKind : Member := constant "ANY_KIND" Query.anyKind

def separator : Member := constant "PROPERTY_VALUE_SEPARATOR" "="

def metadataType : Member := constant "DEFAULT_METADATA_TYPE" Settings.defaultMetadataType

def builtinNamespace : Member := constant "BUILTIN_NAMESPACE" Settings.builtinNamespace

def version : String := "0.1.0"

def versionMember : Member := constant "__version__" version

/-! ## Other classes and functions -/

def type (home name : String) : Member := (name, .library home name true)

def function (home name : String) : Member := (name, .library home name false)

def attaching : List Member :=
  ["annotations_of", "attach", "declared_annotations", "is_annotation_type", "qualified_name",
    "target_kind"].map (function baseHome)

def settingsHome : String := "metamatch.core.config"

def settings : Member := type settingsHome "MatchConfig"

def errors : List Member :=
  ["AnnotationTargetError", "ConfigError", "MetaMatchError", "ModelError", "ModelLoadError",
    "TargetImportError", "UnknownEntityError"].map (type "metamatch.core.exceptions")

def error (name : String) : List Member := errors.filter (·.1 = name)

def descriptorHome : String := "metamatch.match.descriptor"

def property : Member := type descriptorHome "MetadataProperty"

def descriptor : Member := type descriptorHome "MetadataDescriptor"

def searchHome : String := "metamatch.match.discovery"

def search : Member := type searchHome "MetadataDiscovery"

def queryHome : String := "metamatch.match.expression"

def predicate : Member := type queryHome "PropertyPredicate"

def expression : Member := type queryHome "MatchExpression"

def cutting : Member := function queryHome "split_property"

def reading : Member := function queryHome "parse_expression"

def readingParts : List Member :=
  [cutting, reading, function queryHome "parse_predicate", function queryHome "iter_groups"]

def matchingHome : String := "metamatch.match.matcher"

def matching : Member := type matchingHome "MetadataMatcher"

def accepting : Member := function matchingHome "matches"

def viewHome : String := "metamatch.model.protocols"

def view : Member := type viewHome "AnnotationModel"

def programHome : String := "metamatch.model.reflective"

def programView : Member := type programHome "ReflectiveAnnotationModel"

def graphHome : String := "metamatch.model.static"

def graphView : Member := type graphHome "StaticAnnotationModel"

def graphNodes : List Member :=
  ["AnnotationNode", "EntityNode", "TypeNode"].map (type graphHome)

def loading : Member := function graphHome "load_model"

def finding : Member := function "metamatch.cli.commands.find" "handle_find"

def comparing : Member := function "metamatch.cli.commands.match" "handle_match"

def resolving : List Member :=
  ["import_target", "resolve"].map (function "metamatch.cli.commands.targets")

def running : List Member :=
  ["add_target_arguments", "configure_logging", "create_parser", "main", "run"].map
    (function "metamatch.cli.main")

/-! ## Modules -/

/-- The modules below a package, as its members. -/
def below (package : String) (names : List String) : List Member :=
  names.map fun name => (name, .module (package ++ "." ++ name))

/-- The families of things that modules hold from elsewhere; of others, only the names
matter. -/
def foreign : List Trait :=
  [⟨.function, words "dataclass field fields runtime_checkable"⟩,
    ⟨.module, words "argparse difflib importlib inspect os sys yaml"⟩,
    ⟨.type, words "Any Path Protocol TypeVar"⟩, ⟨.text, words "__cached__ __file__"⟩,
    ⟨.mapping, ["__builtins__"]⟩, ⟨.list, words "__all__ __path__"⟩]

/-- Things from elsewhere as members of a module. -/
def passing (home : String) (names : List String) : List Member :=
  names.map fun name =>
    let trait := foreign.find? fun t => t.names.contains name
    (name, .feature ((trait.map (·.family)).getD .thing) (.module home))

/-- What every module says of itself and of its file. -/
def filed (home : String) : List Member :=
  ("__name__", .value (.text home)) :: passing home (words "__builtins__ __cached__ __file__")

def package (name : String) (modules : List String) (members : List Member) : LibraryModule :=
  ⟨name, true, members ++ below name modules ++ passing name ["__path__"] ++ filed name⟩

/-- A package that lists what it offers. -/
def listing (name : String) (modules : List String) (members : List Member) : LibraryModule :=
  package name modules (members ++ passing name ["__all__"])

/-- A module that also holds things from elsewhere. -/
def leaf (name : String) (members : List Member) (others : String) : LibraryModule :=
  ⟨name, false, members ++ passing name (words others) ++ filed name⟩

def modules : List LibraryModule :=
  [listing "metamatch" ["annotations", "api", "cli", "core", "match", "model"]
      ([base, documented, target, inherited, metadata, selection, matchesAll, versionMember,
        settings, descriptor, search, matching, accepting, reading, programView, graphView,
        loading, function baseHome "annotations_of"] ++ error "MetaMatchError"),
    leaf publicHome [base, documented, target, metadata, selection] "dataclass",
    listing "metamatch.annotations" ["base", "builtin"]
      ([attributeName, base, documented, inherited, target] ++ attaching),
    leaf baseHome ([attributeName, base] ++ attaching ++ error "AnnotationTargetError")
      "Any T TypeVar annotations dataclass fields inspect",
    leaf describingHome [base, kinds, documented, target, inherited] "dataclass",
    package "metamatch.cli" ["commands", "main"] [],
    leaf "metamatch.cli.main"
      ([versionMember, ("commands", .module "metamatch.cli.commands"), settings] ++ running)
      "NoReturn argparse logger sys",
    listing "metamatch.cli.commands" ["find", "match", "targets"]
      ([finding, comparing] ++ resolving),
    leaf "metamatch.cli.commands.find"
      ([finding, settings] ++ resolving.filter (·.1 = "resolve")) "",
    leaf "metamatch.cli.commands.match"
      ([comparing, settings] ++ resolving.filter (·.1 = "resolve")) "",
    leaf "metamatch.cli.commands.targets"
      ([settings, matching, loading] ++ resolving ++ error "TargetImportError") "Any importlib",
    listing "metamatch.core" ["config", "exceptions"]
      ([builtinNamespace, metadataType, settings] ++ errors),
    leaf settingsHome ([metadataType, builtinNamespace, settings] ++ error "ConfigError")
      "Any Path dataclass fields os yaml",
    leaf "metamatch.core.exceptions" errors "",
    listing "metamatch.match" ["descriptor", "discovery", "expression", "matcher"]
      ([anyKind, matchesAll, descriptor, property, search, expression, predicate, matching,
        accepting] ++ readingParts),
    leaf descriptorHome [property, descriptor, cutting]
      "Any Iterable Mapping annotations dataclass",
    leaf searchHome [settings, view, programView, descriptor, search]
      "Any Iterator _EXHAUSTED annotations logger",
    leaf queryHome ([anyKind, separator, predicate, expression] ++ readingParts)
      "Iterator annotations dataclass",
    leaf matchingHome
      [selection, matchesAll, settings, view, descriptor, search, expression, reading,
        matching, accepting]
      "Any E Iterable TypeVar _default_matcher annotations logger",
    listing "metamatch.model" ["protocols", "reflective", "static"]
      ([view, programView, graphView, loading] ++ graphNodes),
    leaf viewHome [view] "Any Hashable Mapping Protocol Sequence annotations runtime_checkable",
    leaf programHome
      ([base, programView] ++
        attaching.filter fun m => m.1 = "annotations_of" || m.1 = "qualified_name")
      "Any Mapping Sequence annotations",
    leaf graphHome
      ([metadataType, graphView, loading] ++ graphNodes ++ error "ModelLoadError" ++
        error "UnknownEntityError" ++
        ["_annotations", "_entry", "_section"].map (function graphHome))
      "Any Mapping Path Sequence annotations dataclass difflib field logger yaml"]

def module? (name : String) : Option LibraryModule := modules.find? (·.name = name)

/-! ## Members of classes -/

/-- What every view of annotations offers. -/
def viewFunctions : List String :=
  words "list_annotations annotation_type qualified_name resolved_attributes"

/-- The classes with fields of their own. -/
def recordNames : List String :=
  words <| "AnnotationNode EntityNode MatchConfig MatchExpression MetadataDescriptor " ++
    "MetadataProperty PropertyPredicate TypeNode"

/-- The functions of the other classes. -/
def functionsOf : String → List String
  | "AnnotationTargetError" => ["__init__"]
  | "UnknownEntityError" => ["__init__"]
  | "MatchConfig" => words "is_reserved _apply_env __post_init__"
  | "MetadataProperty" => ["__str__"]
  | "MatchExpression" => ["accepts_kind"]
  | "MetadataDiscovery" => words "__init__ find find_annotation"
  | "MetadataMatcher" => words "__init__ find_metadata matches matches_descriptor select"
  | "AnnotationModel" => viewFunctions
  | "ReflectiveAnnotationModel" => viewFunctions
  | "StaticAnnotationModel" => words "__init__ entity entity_names" ++ viewFunctions
  | _ => []

/-- The functions that the other classes offer themselves, and not their things. -/
def makersOf : String → List String
  | "MatchConfig" => words "from_env from_file from_env_or_file _from_mapping"
  | "MetadataDescriptor" => words "from_strings from_attributes"
  | "AnnotationModel" => words "register __class_getitem__"
  | "StaticAnnotationModel" => ["from_mapping"]
  | _ => []

/-- What the things of the other classes have computed for them. -/
def computedOf : String → List String
  | "MetadataDescriptor" => ["property_map"]
  | "PropertyPredicate" => ["satisfiable"]
  | "MatchExpression" => ["any_kind"]
  | "MetadataMatcher" => words "model config"
  | _ => []

/-- What the other classes say of themselves. -/
def featuresOf (home type : String) : List Member :=
  let owner : Subject := .library home type true
  let fields := if type ∈ recordNames then recordFeatures owner else []
  let shape := if type = "AnnotationModel" then
      (words "__abstractmethods__ __parameters__ __slots__" ++
        words "_abc_impl _is_protocol _is_runtime_protocol").map (·, .feature .thing owner)
    else [("__weakref__", .feature .slot owner)]
  (makersOf type).map (·, .feature .method owner)
    ++ (computedOf type).map (·, .feature .computed owner) ++ fields ++ shape ++
    [("__annotations__", .feature .mapping owner), ("__name__", .value (.text type)),
      ("__qualname__", .value (.text type)), ("__module__", .value (.text home))]

/-- The defaults that the other classes hold. -/
def defaultsOf : String → Attributes
  | "MatchConfig" =>
    [(.text "metadata_type", Settings.default.metadataType),
      (.text "reserved_prefixes", .tuple Settings.default.reserved),
      (.text "max_depth", Settings.default.depth.written),
      (.text "log_level", .text Settings.default.logLevel)]
  | "MetadataDescriptor" => [(.text "properties", .tuple [])]
  | "MetadataProperty" => [(.text "value", .none)]
  | "PropertyPredicate" => [(.text "value", .none)]
  | "MatchExpression" => [(.text "predicates", .tuple [])]
  | _ => []

def member? (place : Place) (name : String) : Option Subject :=
  match place with
  | .module home => (module? home).bind fun m => m.members.lookup name
  | .inside _ => none
  | .library home type =>
    if name ∈ functionsOf type then some (.library (home ++ "." ++ type) name false)
    else
      ((Dictionary.get? (defaultsOf type) (.text name)).map .value)
        <|> (featuresOf home type).lookup name

end Library

end Hallmark.Program
