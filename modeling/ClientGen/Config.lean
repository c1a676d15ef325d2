/-!
# Configurations

What a run is told: where the schemas are and what to leave out, where and how to write the clients,
and the overrides of single methods. `Source` is the type of the overrides: their texts, or the
scripts that these stand for.
-/

set_option autoImplicit false
set_option relaxedAutoImplicit false

namespace ClientGen

/-- The template for a method that has no override: its comment, and a function that sends the
request. -/
def defaultMethodTemplate : String :=
  "\x7b% if comment %\x7d// \x7b\x7b comment | replace(\"\\n\", \"\\n// \") \x7d\x7d\n" ++
  "\x7b% endif %\x7dexport function \x7b\x7b name \x7d\x7d(data: \x7b\x7b request \x7d\x7d): " ++
  "Promise<\x7b\x7b response \x7d\x7d> \x7b\n" ++
  "  return request<\x7b\x7b response \x7d\x7d>(\"\x7b\x7b method \x7d\x7d\", " ++
  "\"\x7b\x7b path \x7d\x7d\", data);\n" ++
  "\x7d\n"

/-- A configuration. -/
structure Config (Source : Type) where
  protoPath : String := "./"
  importPaths : List String := []
  excludePaths : List String := []
  imports : List String := []
  methodTemplate : String := defaultMethodTemplate
  overrides : List (String × Source) := []
  outputDir : String := "."
  fileExtension : String := "ts"
  isolateOverrides : Bool := false
  ownComments : Bool := false
  strictNames : Bool := false
  protoc : String := "protoc"
  deriving DecidableEq, Repr

namespace Config

/-- The configuration with every override source replaced. -/
def mapSources {Source Target : Type} (change : Source → Target) (config : Config Source) :
    Config Target :=
  { config with overrides := config.overrides.map fun (name, source) ↦ (name, change source) }

end Config

end ClientGen
