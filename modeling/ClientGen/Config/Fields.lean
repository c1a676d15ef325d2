import ClientGen.Config.Reading

/-!
# Fields of configurations

A configuration as values by key. Reading its fields gives it back, in any order. Fields can be
changed without a check of the new values.
-/

set_option autoImplicit false
set_option relaxedAutoImplicit false

namespace ClientGen

namespace Config

/-- A list of texts as a value. -/
def textsValue (texts : List String) : Yaml.Value :=
  .list (texts.map .str)

/-- The value of a field. -/
def value (config : Config String) : Key → Yaml.Value
  | .protoPath => .str config.protoPath
  | .importPaths => textsValue config.importPaths
  | .excludePaths => textsValue config.excludePaths
  | .imports => textsValue config.imports
  | .methodTemplate => .str config.methodTemplate
  | .overrides => .map (config.overrides.map fun (name, source) ↦ (.str name, .str source))
  | .outputDir => .str config.outputDir
  | .fileExtension => .str config.fileExtension
  | .isolateOverrides => .bool config.isolateOverrides
  | .ownComments => .bool config.ownComments
  | .strictNames => .bool config.strictNames
  | .protoc => .str config.protoc

/-- The fields of a configuration. -/
def fields (config : Config String) : List (Key × Yaml.Value) :=
  Key.all.map fun key ↦ (key, config.value key)

/-- A change to a field that no configuration has. -/
structure UnknownField where
  name : String
  deriving DecidableEq, Repr

/-- The report of a change to an unknown field. -/
def UnknownField.message (e : UnknownField) : String :=
  "GeneratorConfig.__init__() got an unexpected keyword argument '" ++ e.name ++ "'"

/-- Fields with the value of one replaced. -/
def replaceField (key : Key) (value : Yaml.Value) (fields : List (Key × Yaml.Value)) :
    List (Key × Yaml.Value) :=
  fields.map fun (other, old) ↦ (other, if other = key then value else old)

/-- Fields with changes by name. A change to nothing is none. -/
def changeFields : List (String × Yaml.Value) → List (Key × Yaml.Value) →
    Except UnknownField (List (Key × Yaml.Value))
  | [], fields => .ok fields
  | (_, .null) :: rest, fields => changeFields rest fields
  | (name, value) :: rest, fields =>
    match Key.ofName? name with
    | none => .error ⟨name⟩
    | some key => changeFields rest (replaceField key value fields)

end Config

end ClientGen
