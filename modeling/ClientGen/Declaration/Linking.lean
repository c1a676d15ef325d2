import ClientGen.Comment
import ClientGen.Declaration
import ClientGen.FieldName

/-!
# Linking a descriptor set

`Schema.link` turns a descriptor set into declarations. It first lists the full names that the files
declare, files in order, a message before the types nested in it and messages before enums; a later
declaration of a name takes it over. Then it resolves all fields, the fields of nested messages
before those of the message around them, and last all methods. The first name that no declaration of
the right kind owns is reported.
-/

set_option autoImplicit false
set_option relaxedAutoImplicit false

namespace ClientGen

/-- The two kinds of types. -/
inductive TypeKind
  | message | enum
  deriving DecidableEq, Repr

/-- The word for a kind. -/
def TypeKind.word : TypeKind → String
  | message => "message"
  | enum => "enum"

/-- A type name that no declaration of the expected kind owns. -/
structure LinkError where
  expected : TypeKind
  typeName : String
  deriving DecidableEq, Repr

/-- The report of a link error. -/
def LinkError.message (e : LinkError) : String :=
  "Unresolved " ++ e.expected.word ++ " type '" ++ e.typeName ++ "'"

namespace Linking

/-- The full name of a declaration inside a scope. -/
def qualify (scope name : String) : String :=
  scope ++ "." ++ name

/-- The scope of a package: a dot and its name, or nothing for the unnamed package. -/
def packageScope (package : String) : String :=
  if package = "" then "" else "." ++ package

mutual

/-- The full names a message declares, in order. -/
def namesOfMessage (scope : String) : Descriptor.Message → List (String × TypeKind)
  | ⟨name, _, messages, enums, _⟩ =>
    (qualify scope name, .message) :: namesOfMessages (qualify scope name) messages ++
      enums.map fun e ↦ (qualify (qualify scope name) e.name, .enum)

/-- The full names a list of messages declares, in order. -/
def namesOfMessages (scope : String) : List Descriptor.Message → List (String × TypeKind)
  | [] => []
  | m :: rest => namesOfMessage scope m ++ namesOfMessages scope rest

end

/-- The full names a file declares, in order. -/
def namesOfFile (file : Descriptor.File) : List (String × TypeKind) :=
  namesOfMessages (packageScope file.package) file.messages ++
    file.enums.map fun e ↦ (qualify (packageScope file.package) e.name, .enum)

/-- The kind of the last declaration under a full name. -/
def ownerKind? (names : List (String × TypeKind)) (fullName : String) : Option TypeKind :=
  names.reverse.lookup fullName

/-- The clean text of the last location at a path that has a text. -/
def commentAt (locations : List (List Int × String)) (path : List Int) : String :=
  match locations.reverse.find? fun (location, text) ↦ location = path && text ≠ "" with
  | some (_, text) => Comment.clean text
  | none => ""

/-- The lists that declarations stand in. -/
inductive Place
  | fileMessage | fileEnum | fileService | messageField | nestedMessage | nestedEnum | enumValue
  | serviceMethod
  deriving DecidableEq, Repr

/-- The number of a list in the file format. -/
def Place.number : Place → Int
  | fileMessage => 4
  | fileEnum => 5
  | fileService => 6
  | messageField => 2
  | nestedMessage => 3
  | nestedEnum => 4
  | enumValue => 2
  | serviceMethod => 2

/-- The source path of the `i`-th declaration of a list inside the declaration at `path`. -/
def Place.path (place : Place) (path : List Int) (i : Nat) : List Int :=
  path ++ [place.number, (i : Int)]

/-- What linking needs to know: the declared names, and the locations of the file at hand. -/
structure Context where
  names : List (String × TypeKind)
  locations : List (List Int × String)

namespace Context

/-- The comment on the declaration at a path. -/
def comment (context : Context) (path : List Int) : String :=
  commentAt context.locations path

/-- Accepts a full name owned by a declaration of the expected kind. -/
def resolve (context : Context) (expected : TypeKind) (fullName : String) :
    Except LinkError String :=
  if ownerKind? context.names fullName = some expected then .ok fullName
  else .error ⟨expected, fullName⟩

/-- Links an enum. -/
def linkEnum (context : Context) (scope : String) (parent : Option String) (path : List Int)
    (e : Descriptor.Enum) : Declaration.Enum where
  name := e.name
  fullName := qualify scope e.name
  comment := context.comment path
  parent := parent
  values := e.values.zipIdx.map fun ((name, number), i) ↦
    { name, number, comment := context.comment (Place.enumValue.path path i) }

/-- Links the enums of a list inside the declaration at `path`. -/
def linkEnums (context : Context) (scope : String) (parent : Option String) (place : Place)
    (path : List Int) (enums : List Descriptor.Enum) : List Declaration.Enum :=
  enums.zipIdx.map fun (e, i) ↦ context.linkEnum scope parent (place.path path i) e

/-- The declaration a field refers to. -/
def linkType (context : Context) (field : Descriptor.Field) :
    Except LinkError Declaration.Link :=
  match field.type with
  | .message => (context.resolve .message field.typeName).map .message
  | .enum => (context.resolve .enum field.typeName).map .enum
  | _ => .ok .scalar

/-- Links a field. -/
def linkField (context : Context) (path : List Int) (field : Descriptor.Field) :
    Except LinkError Declaration.Field := do
  let link ← context.linkType field
  return {
    name := field.name
    jsonName := field.jsonName.getD (FieldName.json field.name)
    type := field.type
    repeated := field.repeated
    comment := context.comment path
    link }

mutual

/-- Links a message: first the messages nested in it, then its fields. -/
def linkMessage (context : Context) (scope : String) (parent : Option String) (path : List Int) :
    Descriptor.Message → Except LinkError Declaration.Message
  | ⟨name, fields, messages, enums, mapEntry⟩ => do
    let fullName := qualify scope name
    let messages ← context.linkMessages fullName (some fullName) .nestedMessage path 0 messages
    let fields ← fields.zipIdx.mapM fun (field, i) ↦
      context.linkField (Place.messageField.path path i) field
    return {
      name, fullName, mapEntry, parent, fields, messages
      comment := context.comment path
      enums := context.linkEnums fullName (some fullName) .nestedEnum path enums }

/-- Links the messages of a list inside the declaration at `path`, from position `i` on. -/
def linkMessages (context : Context) (scope : String) (parent : Option String) (place : Place)
    (path : List Int) (i : Nat) :
    List Descriptor.Message → Except LinkError (List Declaration.Message)
  | [] => .ok []
  | m :: rest => do
    let m ← context.linkMessage scope parent (place.path path i) m
    let rest ← context.linkMessages scope parent place path (i + 1) rest
    return m :: rest

end

/-- Links the types of a file; its services are still to come. -/
def linkTypes (context : Context) (file : Descriptor.File) :
    Except LinkError Declaration.File := do
  let scope := packageScope file.package
  let messages ← context.linkMessages scope none .fileMessage [] 0 file.messages
  return {
    name := file.name
    package := file.package
    messages
    enums := context.linkEnums scope none .fileEnum [] file.enums
    services := [] }

/-- Links a method, its input before its output. -/
def linkMethod (context : Context) (path : List Int) (method : Descriptor.Method) :
    Except LinkError Declaration.Method := do
  let input ← context.resolve .message method.input
  let output ← context.resolve .message method.output
  return {
    name := method.name
    input, output
    clientStreaming := method.clientStreaming
    serverStreaming := method.serverStreaming
    comment := context.comment path
    rule := method.rule }

/-- Links a service. -/
def linkService (context : Context) (file : String) (path : List Int)
    (service : Descriptor.Service) : Except LinkError Declaration.Service := do
  let methods ← service.methods.zipIdx.mapM fun (method, i) ↦
    context.linkMethod (Place.serviceMethod.path path i) method
  return { name := service.name, comment := context.comment path, file, methods }

/-- Links the services of a file. -/
def linkServices (context : Context) (file : Descriptor.File) :
    Except LinkError (List Declaration.Service) :=
  file.services.zipIdx.mapM fun (service, i) ↦
    context.linkService file.name (Place.fileService.path [] i) service

end Context

end Linking

open Linking in
/-- Links a descriptor set: the types of all files, then the services of all files. -/
def Schema.link (set : List Descriptor.File) : Except LinkError Schema := do
  let names := set.flatMap namesOfFile
  let typed ← set.mapM fun file ↦ (Context.mk names file.locations).linkTypes file
  let files ← (set.zip typed).mapM fun (file, declaration) ↦ do
    let services ← (Context.mk names file.locations).linkServices file
    return { declaration with services }
  return { files }

end ClientGen
