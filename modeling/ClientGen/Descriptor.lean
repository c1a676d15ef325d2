/-!
# Descriptor sets

The output of the schema compiler as plain data: files with their messages, enums and services, the
comments by source location, and the HTTP rule of each method. Types are referred to by name;
nothing is resolved yet.
-/

set_option autoImplicit false
set_option relaxedAutoImplicit false

namespace ClientGen

/-- The types a field can be declared with. -/
inductive FieldType
  | double | float | int64 | uint64 | int32 | fixed64 | fixed32 | bool | string | group | message
  | bytes | uint32 | enum | sfixed32 | sfixed64 | sint32 | sint64
  deriving DecidableEq, Repr, Inhabited

/-- The tag of a field type in records. -/
def FieldType.tag : FieldType → String
  | double => "TYPE_DOUBLE"
  | float => "TYPE_FLOAT"
  | int64 => "TYPE_INT64"
  | uint64 => "TYPE_UINT64"
  | int32 => "TYPE_INT32"
  | fixed64 => "TYPE_FIXED64"
  | fixed32 => "TYPE_FIXED32"
  | bool => "TYPE_BOOL"
  | string => "TYPE_STRING"
  | group => "TYPE_GROUP"
  | message => "TYPE_MESSAGE"
  | bytes => "TYPE_BYTES"
  | uint32 => "TYPE_UINT32"
  | enum => "TYPE_ENUM"
  | sfixed32 => "TYPE_SFIXED32"
  | sfixed64 => "TYPE_SFIXED64"
  | sint32 => "TYPE_SINT32"
  | sint64 => "TYPE_SINT64"

/-- All field types. -/
def FieldType.all : List FieldType :=
  [double, float, int64, uint64, int32, fixed64, fixed32, bool, string, group, message, bytes,
    uint32, enum, sfixed32, sfixed64, sint32, sint64]

/-- The field type with a tag. -/
def FieldType.ofTag? (tag : String) : Option FieldType :=
  all.find? fun type ↦ type.tag = tag

/-- How an HTTP request reaches a method: one of the five plain verbs with a path, or a custom
verb. -/
inductive HttpPattern
  | get (path : String)
  | put (path : String)
  | post (path : String)
  | delete (path : String)
  | patch (path : String)
  | custom (kind path : String)
  deriving DecidableEq, Repr

/-- The HTTP rule attached to a method; the pattern may be left unset. -/
structure HttpRule where
  pattern : Option HttpPattern
  deriving DecidableEq, Repr

namespace Descriptor

/-- A field. `jsonName` is present only if the schema sets it. -/
structure Field where
  name : String := ""
  jsonName : Option String := none
  type : FieldType := .double
  repeated : Bool := false
  typeName : String := ""
  deriving DecidableEq, Repr

/-- An enum with its values in order. -/
structure Enum where
  name : String := ""
  values : List (String × Int) := []
  deriving DecidableEq, Repr

/-- A message with its fields, nested messages and nested enums. `mapEntry` marks the messages the
compiler makes for map fields. -/
structure Message where
  name : String := ""
  fields : List Field := []
  messages : List Message := []
  enums : List Enum := []
  mapEntry : Bool := false
  deriving Inhabited

/-- A method of a service, its input and output types by name. -/
structure Method where
  name : String := ""
  input : String := ""
  output : String := ""
  clientStreaming : Bool := false
  serverStreaming : Bool := false
  rule : Option HttpRule := none
  deriving DecidableEq, Repr

/-- A service with its methods in order. -/
structure Service where
  name : String := ""
  methods : List Method := []
  deriving DecidableEq, Repr

/-- A file. A location is the path of a declaration in the file together with the comment in front
of it. -/
structure File where
  name : String := ""
  package : String := ""
  messages : List Message := []
  enums : List Enum := []
  services : List Service := []
  locations : List (List Int × String) := []

end Descriptor

end ClientGen
