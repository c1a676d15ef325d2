import ClientGen.Config
import ClientGen.Yaml.Value

/-!
# Reading configurations

`Config.ofValue` reads a configuration from a mapping. Every key has to be known and every value to
have the shape of its key; a key that is left out keeps its default. Unknown keys are reported
first, all of them in order; else the first value of a wrong shape is.
-/

set_option autoImplicit false
set_option relaxedAutoImplicit false

namespace ClientGen

namespace Config

/-- The keys of a configuration. -/
inductive Key
  | protoPath | importPaths | excludePaths | imports | methodTemplate | overrides | outputDir
  | fileExtension | isolateOverrides | ownComments | strictNames | protoc
  deriving DecidableEq, Repr

/-- A key as it is written. -/
def Key.name : Key → String
  | protoPath => "proto_path"
  | importPaths => "import_paths"
  | excludePaths => "exclude_paths"
  | imports => "imports"
  | methodTemplate => "method_template"
  | overrides => "func_calls"
  | outputDir => "output_dir"
  | fileExtension => "file_extension"
  | isolateOverrides => "isolate_overrides"
  | ownComments => "own_comments"
  | strictNames => "strict_names"
  | protoc => "protoc"

/-- All keys. -/
def Key.all : List Key :=
  [protoPath, importPaths, excludePaths, imports, methodTemplate, overrides, outputDir,
    fileExtension, isolateOverrides, ownComments, strictNames, protoc]

/-- The key that is written so. -/
def Key.ofName? (name : String) : Option Key :=
  all.find? fun key ↦ key.name = name

/-- The shapes of values. -/
inductive Shape
  | text | flag | texts | sources
  deriving DecidableEq, Repr

/-- The shape of the values of a key. -/
def Key.shape : Key → Shape
  | protoPath | methodTemplate | outputDir | fileExtension | protoc => .text
  | isolateOverrides | ownComments | strictNames => .flag
  | importPaths | excludePaths | imports => .texts
  | overrides => .sources

/-- A text. -/
def text? : Yaml.Value → Option String
  | .str text => some text
  | _ => none

/-- A truth value. -/
def flag? : Yaml.Value → Option Bool
  | .bool value => some value
  | _ => none

/-- A list of texts. -/
def texts? : Yaml.Value → Option (List String)
  | .list items => items.mapM text?
  | _ => none

/-- A mapping of texts to texts. -/
def sources? : Yaml.Value → Option (List (String × String))
  | .map entries => entries.mapM fun (name, source) ↦ do return (← text? name, ← text? source)
  | _ => none

/-- The configuration with the value of a key replaced, if the value has the right shape. -/
def set (config : Config String) (key : Key) (value : Yaml.Value) : Option (Config String) :=
  match key with
  | .protoPath => (text? value).map fun s ↦ { config with protoPath := s }
  | .importPaths => (texts? value).map fun l ↦ { config with importPaths := l }
  | .excludePaths => (texts? value).map fun l ↦ { config with excludePaths := l }
  | .imports => (texts? value).map fun l ↦ { config with imports := l }
  | .methodTemplate => (text? value).map fun s ↦ { config with methodTemplate := s }
  | .overrides => (sources? value).map fun l ↦ { config with overrides := l }
  | .outputDir => (text? value).map fun s ↦ { config with outputDir := s }
  | .fileExtension => (text? value).map fun s ↦ { config with fileExtension := s }
  | .isolateOverrides => (flag? value).map fun b ↦ { config with isolateOverrides := b }
  | .ownComments => (flag? value).map fun b ↦ { config with ownComments := b }
  | .strictNames => (flag? value).map fun b ↦ { config with strictNames := b }
  | .protoc => (text? value).map fun s ↦ { config with protoc := s }

/-- Why a value is no configuration. -/
inductive Fault
  | notMapping
  | unknownKeys (keys : List String)
  | wrongShape (key : Key) (type : String)
  deriving DecidableEq, Repr

/-- The report of a fault in a source. -/
def Fault.message (source : String) : Fault → String
  | notMapping => source ++ ": top-level YAML value must be a mapping"
  | unknownKeys keys => source ++ ": unknown configuration key(s): " ++ ", ".intercalate keys
  | wrongShape key type =>
    source ++ ": '" ++ key.name ++ "' must " ++
      match key.shape with
      | .text => "be of type str, got " ++ type
      | .flag => "be of type bool, got " ++ type
      | .texts => "be a list of strings"
      | .sources => "map method names to override source strings"

/-- The key that a value stands for. -/
def key? (value : Yaml.Value) : Option Key :=
  (text? value).bind Key.ofName?

/-- Sets the value of an entry. -/
def setEntry (config : Config String) (entry : Yaml.Value × Yaml.Value) :
    Except Fault (Config String) :=
  match key? entry.1 with
  | none => .error (.unknownKeys [entry.1.shown])
  | some key =>
    match config.set key entry.2 with
    | some config => .ok config
    | none => .error (.wrongShape key entry.2.typeName)

/-- The configuration that the entries of a mapping make. -/
def ofEntries (entries : List (Yaml.Value × Yaml.Value)) : Except Fault (Config String) :=
  let unknown := entries.filter fun (key, _) ↦ (key? key).isNone
  if unknown.isEmpty then entries.foldlM setEntry {}
  else .error (.unknownKeys ((unknown.map fun (key, _) ↦ key.shown).mergeSort (· ≤ ·)))

/-- The configuration that a value makes. -/
def ofValue : Yaml.Value → Except Fault (Config String)
  | .map entries => ofEntries entries
  | _ => .error .notMapping

end Config

end ClientGen
