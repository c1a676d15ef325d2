import ClientGen.Descriptor
import ClientGen.Yaml.Members

/-!
# Reading descriptor sets

A descriptor set as a document: a list of files, each a mapping. What is left out has its default.
-/

set_option autoImplicit false
set_option relaxedAutoImplicit false

namespace ClientGen

/-- The pattern that a document gives. -/
def HttpPattern.ofValue? (value : Yaml.Value) : Option HttpPattern :=
  let path := value.textAt "path"
  match value.textAt? "pattern" with
  | some "get" => some (.get path)
  | some "put" => some (.put path)
  | some "post" => some (.post path)
  | some "delete" => some (.delete path)
  | some "patch" => some (.patch path)
  | some "custom" => some (.custom (value.textAt "kind") path)
  | _ => none

/-- The rule that a document gives. -/
def HttpRule.ofValue (value : Yaml.Value) : HttpRule :=
  ⟨HttpPattern.ofValue? value⟩

namespace Descriptor

/-- The whole number that a value is, or zero. -/
def number (value : Yaml.Value) : Int :=
  value.int?.getD 0

/-- The field that a document gives. -/
def Field.ofValue (value : Yaml.Value) : Field where
  name := value.textAt "name"
  jsonName := value.textAt? "json_name"
  type := ((value.textAt? "type").bind FieldType.ofTag?).getD .double
  repeated := value.textAt "label" = "LABEL_REPEATED"
  typeName := value.textAt "type_name"

/-- The enum that a document gives. -/
def Enum.ofValue (value : Yaml.Value) : Enum where
  name := value.textAt "name"
  values := (value.itemsAt "values").filterMap fun item ↦
    match item.items with
    | [.str name, item] => some (name, number item)
    | _ => none

/-- The message that a document gives, nested up to a depth. -/
def Message.ofValue : Nat → Yaml.Value → Message
  | 0, _ => {}
  | depth + 1, value => {
      name := value.textAt "name"
      fields := (value.itemsAt "fields").map Field.ofValue
      messages := (value.itemsAt "messages").map (Message.ofValue depth)
      enums := (value.itemsAt "enums").map Enum.ofValue
      mapEntry := value.flagAt "map_entry" }

/-- The method that a document gives. -/
def Method.ofValue (value : Yaml.Value) : Method where
  name := value.textAt "name"
  input := value.textAt "input"
  output := value.textAt "output"
  clientStreaming := value.flagAt "client_streaming"
  serverStreaming := value.flagAt "server_streaming"
  rule := (value.member? "http").map HttpRule.ofValue

/-- The service that a document gives. -/
def Service.ofValue (value : Yaml.Value) : Service where
  name := value.textAt "name"
  methods := (value.itemsAt "methods").map Method.ofValue

/-- The file that a document gives. -/
def File.ofValue (value : Yaml.Value) : File where
  name := value.textAt "name"
  package := value.textAt "package"
  messages := (value.itemsAt "messages").map (Message.ofValue value.depth)
  enums := (value.itemsAt "enums").map Enum.ofValue
  services := (value.itemsAt "services").map Service.ofValue
  locations := (value.itemsAt "comments").filterMap fun item ↦
    match item.items with
    | [path, .str text] => some (path.items.map number, text)
    | _ => none

/-- The descriptor set that a document gives. -/
def filesOfValue (value : Yaml.Value) : List File :=
  value.items.map File.ofValue

end Descriptor

end ClientGen
