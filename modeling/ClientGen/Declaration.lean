import ClientGen.Descriptor

/-!
# Declarations

The linked form of a descriptor set: every type carries its full name, its comment and the full name
of the message around it, and every field and method names the declarations it refers to. Several
declarations may share a full name; the last of them in declaration order owns it
(`Schema.owner?`).
-/

set_option autoImplicit false
set_option relaxedAutoImplicit false

namespace ClientGen

namespace Declaration

/-- The declaration a field's type refers to, by full name; scalar fields refer to none. -/
inductive Link
  | scalar
  | message (fullName : String)
  | enum (fullName : String)
  deriving DecidableEq, Repr

/-- A field of a message. -/
structure Field where
  name : String
  jsonName : String
  type : FieldType
  repeated : Bool
  comment : String
  link : Link
  deriving DecidableEq, Repr

/-- A value of an enum. -/
structure EnumValue where
  name : String
  number : Int
  comment : String
  deriving DecidableEq, Repr

/-- An enum, with the full name of the message around it. -/
structure Enum where
  name : String
  fullName : String
  comment : String
  parent : Option String
  values : List EnumValue
  deriving DecidableEq, Repr

/-- A message, with the full name of the message around it. -/
structure Message where
  name : String
  fullName : String
  comment : String
  mapEntry : Bool
  parent : Option String
  fields : List Field
  messages : List Message
  enums : List Enum

/-- A method; its input and output are messages given by full name. -/
structure Method where
  name : String
  input : String
  output : String
  clientStreaming : Bool
  serverStreaming : Bool
  comment : String
  rule : Option HttpRule
  deriving DecidableEq, Repr

/-- A service with the name of the file that declares it. -/
structure Service where
  name : String
  comment : String
  file : String
  methods : List Method
  deriving DecidableEq, Repr

/-- A file. -/
structure File where
  name : String
  package : String
  messages : List Message
  enums : List Enum
  services : List Service

/-- A declared type. -/
inductive NamedType
  | message (declaration : Message)
  | enum (declaration : Enum)

/-- The full name of a declared type. -/
def NamedType.fullName : NamedType → String
  | message declaration => declaration.fullName
  | enum declaration => declaration.fullName

mutual

/-- The types a message declares, itself first, then its nested messages, then its enums. -/
def Message.types : Message → List NamedType
  | m@⟨_, _, _, _, _, _, messages, enums⟩ =>
    .message m :: typesOfMessages messages ++ enums.map .enum

/-- The types a list of messages declares. -/
def typesOfMessages : List Message → List NamedType
  | [] => []
  | m :: rest => m.types ++ typesOfMessages rest

end

/-- The types a file declares, messages before enums. -/
def File.types (file : File) : List NamedType :=
  typesOfMessages file.messages ++ file.enums.map .enum

end Declaration

/-- A linked descriptor set. -/
structure Schema where
  files : List Declaration.File

namespace Schema

open Declaration

/-- All declared types in declaration order. -/
def types (schema : Schema) : List NamedType :=
  schema.files.flatMap File.types

/-- The last type declared under a full name. -/
def owner? (schema : Schema) (fullName : String) : Option NamedType :=
  schema.types.reverse.find? fun type ↦ type.fullName = fullName

/-- The message that owns a full name. -/
def message? (schema : Schema) (fullName : String) : Option Message :=
  match schema.owner? fullName with
  | some (.message declaration) => some declaration
  | _ => none

/-- The enum that owns a full name. -/
def enum? (schema : Schema) (fullName : String) : Option Enum :=
  match schema.owner? fullName with
  | some (.enum declaration) => some declaration
  | _ => none

/-- The message a field refers to. -/
def fieldMessage? (schema : Schema) (field : Field) : Option Message :=
  match field.link with
  | .message fullName => schema.message? fullName
  | _ => none

/-- The entry message of a map field: a repeated field is a map if its message is marked as an
entry. -/
def mapEntry? (schema : Schema) (field : Field) : Option Message :=
  if field.repeated then (schema.fieldMessage? field).filter Message.mapEntry else none

end Schema

end ClientGen
