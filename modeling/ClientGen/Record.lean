import ClientGen.Json

/-!
# Flat records

What is left of a service after flattening: its calls, and the messages and enums they reach, under
flat names. Type tags are texts, since a record may stem from elsewhere. Each record has a JSON
form.
-/

set_option autoImplicit false
set_option relaxedAutoImplicit false

namespace ClientGen.Record

/-- What a field holds: a scalar, a map, or a reference to a record. A map with a named value type
keeps its flat name, any other the empty name. -/
inductive Kind
  | scalar (type : String) (repeated : Bool)
  | map (keyType valueType valueName : String)
  | reference (typeName : String) (repeated : Bool)
  deriving DecidableEq, Repr

/-- A field. -/
structure Field where
  name : String
  type : String
  kind : Kind
  comment : String
  deriving DecidableEq, Repr

namespace Field

/-- Whether the field is a map. -/
def isMap (field : Field) : Bool :=
  match field.kind with
  | .map .. => true
  | _ => false

/-- Whether the field holds several values; a map does. -/
def isRepeated (field : Field) : Bool :=
  match field.kind with
  | .scalar _ repeated => repeated
  | .map .. => true
  | .reference _ repeated => repeated

/-- The flat name the field refers to, if any. -/
def typeName (field : Field) : String :=
  match field.kind with
  | .scalar .. => ""
  | .map _ _ valueName => valueName
  | .reference typeName _ => typeName

/-- The key type of a map. -/
def mapKey (field : Field) : String :=
  match field.kind with
  | .map keyType _ _ => keyType
  | _ => ""

/-- The value type of a map, by flat name if it has one. -/
def mapValue (field : Field) : String :=
  match field.kind with
  | .map _ valueType valueName => if valueName = "" then valueType else valueName
  | _ => ""

/-- The JSON form. -/
def json (field : Field) : Json :=
  .object [("name", .text field.name), ("type", .text field.type),
    ("typeName", .text field.typeName), ("leadingComments", .text field.comment),
    ("isMap", .flag field.isMap), ("isRepeated", .flag field.isRepeated),
    ("mapKey", .text field.mapKey), ("mapValue", .text field.mapValue)]

end Field

/-- A message. -/
structure Message where
  name : String
  comment : String
  fields : List Field
  deriving DecidableEq, Repr

/-- The JSON form. -/
def Message.json (message : Message) : Json :=
  .object [("name", .text message.name), ("leadingComments", .text message.comment),
    ("fields", .list (message.fields.map Field.json))]

/-- A value of an enum. -/
structure EnumItem where
  key : String
  value : Int
  comment : String
  deriving DecidableEq, Repr

/-- The JSON form. -/
def EnumItem.json (item : EnumItem) : Json :=
  .object [("key", .text item.key), ("value", .number item.value),
    ("leadingComments", .text item.comment)]

/-- An enum. -/
structure Enum where
  name : String
  comment : String
  items : List EnumItem
  deriving DecidableEq, Repr

/-- The JSON form. -/
def Enum.json (enum : Enum) : Json :=
  .object [("name", .text enum.name), ("leadingComments", .text enum.comment),
    ("enumItems", .list (enum.items.map EnumItem.json))]

/-- A call: a method with its route and the flat names of its request and response. -/
structure Call where
  name : String
  verb : String
  path : String
  request : String
  response : String
  comment : String
  deriving DecidableEq, Repr

/-- The JSON form. -/
def Call.json (call : Call) : Json :=
  .object [("name", .text call.name), ("leadingComments", .text call.comment),
    ("method", .text call.verb), ("path", .text call.path), ("request", .text call.request),
    ("resp", .text call.response)]

/-- A service. -/
structure Service where
  name : String
  comment : String
  calls : List Call
  messages : List Message
  enums : List Enum
  deriving DecidableEq, Repr

/-- The JSON form. -/
def Service.json (service : Service) : Json :=
  .object [("name", .text service.name), ("leadingComments", .text service.comment),
    ("message", .list (service.messages.map Message.json)),
    ("rpc", .list (service.calls.map Call.json)), ("enums", .list (service.enums.map Enum.json))]

end ClientGen.Record
