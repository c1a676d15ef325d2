import ClientGen.Config.Reading
import ClientGen.Disk
import ClientGen.Yaml.Load

/-!
# Loading configurations

`Config.load` reads a configuration file. Without a path it reads the usual file if that is there,
and else answers the defaults. The document in a file is the affair of a reader of documents, which
is `Yaml.load` unless another one is given. An empty document is an empty mapping.
-/

set_option autoImplicit false
set_option relaxedAutoImplicit false

namespace ClientGen

namespace Config

open ClientGen.Text

/-- The usual configuration file. -/
def usualFile : String := "pb2ts.yaml"

/-- Why a configuration cannot be loaded from a path. `notText` stands for a file that is no text,
`faulty` for a fault of form, and `value` for any other fault. -/
inductive LoadFailure
  | unreadable (path : String) (failure : DiskFailure)
  | notText
  | faulty (path : String) (fault : Yaml.Fault)
  | value (fault : Yaml.Fault)
  | refused (path : String) (fault : Fault)
  deriving DecidableEq, Repr

/-- The report of a failure. -/
def LoadFailure.message : LoadFailure → String
  | unreadable path failure =>
    if failure.fault = .nullByte then failure.message
    else "Failed to load config file: " ++ path ++ "\n" ++ failure.message
  | notText => "the configuration file is no text"
  | faulty path fault => "Failed to parse YAML file " ++ path ++ ": " ++ fault.message
  | value fault => fault.message
  | refused path fault => fault.message path

/-- How deep the collections of a configuration are looked into: the mapping itself, and the
collections under its keys. -/
def depth : Nat := 2

/-- The configuration that the text of a file makes. -/
def ofText (documents : Yaml.Reader) (path text : String) :
    Except LoadFailure (Config String) := do
  let lines := String.ofList (unixLineEnds text.toList)
  match documents lines with
  | .error fault => throw (if fault.isForm then .faulty path fault else .value fault)
  | .ok found =>
    let document := match found with
      | some .null | none => .map []
      | some document => document
    (ofValue document).mapError (.refused path)

/-- The configuration in the file that a path leads to. -/
def loadFile (documents : Yaml.Reader) (disk : Disk) (path : String) :
    Except LoadFailure (Config String) :=
  match disk.read (Path.tidy path) with
  | .error failure => .error (.unreadable path failure)
  | .ok (.bytes _) => .error .notText
  | .ok (.text text) => ofText documents path text

/-- The configuration of a run. -/
def load (disk : Disk) (path : Option String) (documents : Yaml.Reader := Yaml.load depth) :
    Except LoadFailure (Config String) :=
  match path with
  | some path => loadFile documents disk path
  | none => if (disk.find? usualFile).isSome then loadFile documents disk usualFile else .ok {}

end Config

end ClientGen
