import ClientGen.Config.Fields
import ClientGen.Mismatch
import ClientGen.Script
import ClientGen.Template.Engine

/-!
# Settings of clients

What writing clients needs of a configuration. A configuration that was read suits its uses
(`Settings.ofConfig`); values that were not checked are taken as they are (`Settings.change`), and a
mismatch shows when the value is used.
-/

set_option autoImplicit false
set_option relaxedAutoImplicit false

namespace ClientGen.Client

/-- How clients are written, and where to. The engine reads the template. -/
structure Settings where
  imports : Except Mismatch (List String)
  template : Except Mismatch String
  engine : Template.Engine := .standard
  overrides : List (String × Script)
  isolated : Bool
  ownComments : Bool
  directory : Except Mismatch String
  extension : String

namespace Settings

/-- The settings of a configuration. -/
def ofConfig (config : Config Script) (engine : Template.Engine := .standard) : Settings where
  imports := .ok config.imports
  template := .ok config.methodTemplate
  engine := engine
  overrides := config.overrides
  isolated := config.isolateOverrides
  ownComments := config.ownComments
  directory := .ok config.outputDir
  extension := config.fileExtension

/-- A value as one line. -/
def line : Yaml.Value → Except Mismatch String
  | .str text => .ok text
  | value => .error (.line value.typeName)

/-- A value as lines: the items of a list, the characters of a text or the keys of a mapping. What
counts as false is no line. -/
def lines (value : Yaml.Value) : Except Mismatch (List String) :=
  if !value.isTruthy then .ok []
  else match value with
    | .list items => items.mapM line
    | .str text => .ok (text.toList.map fun c ↦ String.ofList [c])
    | .map entries => entries.mapM fun (key, _) ↦ line key
    | value => .error (.lines value.typeName)

/-- A value as a template. -/
def templateText : Yaml.Value → Except Mismatch String
  | .str text => .ok text
  | _ => .error .template

/-- A value as a path. -/
def pathText : Yaml.Value → Except Mismatch String
  | .str text => .ok text
  | value => .error (.path value.typeName)

/-- The settings with the value of a key replaced. Keys that writing has no use for change nothing,
and overrides are given as scripts. -/
def change (key : Config.Key) (value : Yaml.Value) (settings : Settings) : Settings :=
  match key with
  | .imports => { settings with imports := lines value }
  | .methodTemplate => { settings with template := templateText value }
  | .isolateOverrides => { settings with isolated := value.isTruthy }
  | .ownComments => { settings with ownComments := value.isTruthy }
  | .outputDir => { settings with directory := pathText value }
  | .fileExtension => { settings with extension := value.shown }
  | .protoPath | .importPaths | .excludePaths | .overrides | .strictNames | .protoc => settings

/-- The default settings with unchecked values by name. -/
def ofMembers (members : List (String × Yaml.Value)) (overrides : List (String × Script)) :
    Except Config.UnknownField Settings :=
  members.foldlM (fun settings (name, value) ↦
    match Config.Key.ofName? name with
    | some key => .ok (settings.change key value)
    | none => .error ⟨name⟩) { ofConfig {} with overrides := overrides }

end Settings

end ClientGen.Client
