import ClientGen.Declaration.Linking
import ClientGen.Proofs.Results

/-!
# Linked schemas

A schema that was linked has an owner for each of its references: a field of a message or enum type
names an owned declaration of that kind, a field of any other type names none, and a method names
two owned messages (`Schema.Linked`). `linked_of_link` shows that every linked descriptor set has
this form. The reason is that the linked types declare the names that linking resolves against, in
the same order (`keys_of_link`), so that both sides find the same last owner.
-/

set_option autoImplicit false
set_option relaxedAutoImplicit false

namespace ClientGen

open Declaration Linking

/-! ### Owners -/

namespace Schema

variable {schema : Schema} {fullName : String}

theorem fullName_of_owner? {type : NamedType} (h : schema.owner? fullName = some type) :
    type.fullName = fullName := by
  simpa using List.find?_some h

theorem message?_eq_some_iff {message : Message} :
    schema.message? fullName = some message ↔ schema.owner? fullName = some (.message message) := by
  unfold message?
  cases schema.owner? fullName with
  | none => simp
  | some type => cases type <;> simp

theorem enum?_eq_some_iff {enum : Enum} :
    schema.enum? fullName = some enum ↔ schema.owner? fullName = some (.enum enum) := by
  unfold enum?
  cases schema.owner? fullName with
  | none => simp
  | some type => cases type <;> simp

/-- No name is owned by a message and an enum. -/
theorem enum?_eq_none_of_message? {message : Message}
    (h : schema.message? fullName = some message) : schema.enum? fullName = none := by
  unfold enum?
  rw [message?_eq_some_iff.mp h]

theorem message?_eq_none_of_enum? {enum : Enum} (h : schema.enum? fullName = some enum) :
    schema.message? fullName = none := by
  unfold message?
  rw [enum?_eq_some_iff.mp h]

theorem fullName_of_message? {message : Message} (h : schema.message? fullName = some message) :
    message.fullName = fullName :=
  fullName_of_owner? (message?_eq_some_iff.mp h)

theorem fullName_of_enum? {enum : Enum} (h : schema.enum? fullName = some enum) :
    enum.fullName = fullName :=
  fullName_of_owner? (enum?_eq_some_iff.mp h)

theorem mem_types_of_owner? {type : NamedType} (h : schema.owner? fullName = some type) :
    type ∈ schema.types :=
  List.mem_reverse.mp (List.mem_of_find?_eq_some h)

end Schema

/-! ### References with an owner -/

/-- The kind of a declared type. -/
def Declaration.NamedType.kind : NamedType → TypeKind
  | message _ => .message
  | enum _ => .enum

/-- The name under which a type is declared, with its kind. -/
def Declaration.NamedType.key (type : NamedType) : String × TypeKind :=
  (type.fullName, type.kind)

/-- The link of a field suits its type, and an owner of the right kind stands behind it. -/
def Schema.FieldLinked (schema : Schema) (field : Field) : Prop :=
  match field.type with
  | .message => ∃ message, field.link = .message message.fullName ∧
      schema.message? message.fullName = some message
  | .enum => ∃ enum, field.link = .enum enum.fullName ∧
      schema.enum? enum.fullName = some enum
  | _ => field.link = .scalar

/-- Messages own the input and the output of a method. -/
structure Schema.MethodLinked (schema : Schema) (method : Method) : Prop where
  input : (schema.message? method.input).isSome
  output : (schema.message? method.output).isSome

/-- Every reference of a schema has an owner of the right kind. -/
structure Schema.Linked (schema : Schema) : Prop where
  field : ∀ message, .message message ∈ schema.types → ∀ field ∈ message.fields,
    schema.FieldLinked field
  method : ∀ file ∈ schema.files, ∀ service ∈ file.services, ∀ method ∈ service.methods,
    schema.MethodLinked method

namespace Linking

/-- The link of a field suits its type, and its name has the right kind of owner in a list of
names. -/
def FieldResolved (names : List (String × TypeKind)) (field : Field) : Prop :=
  match field.type with
  | .message => ∃ fullName, field.link = .message fullName ∧
      ownerKind? names fullName = some .message
  | .enum => ∃ fullName, field.link = .enum fullName ∧ ownerKind? names fullName = some .enum
  | _ => field.link = .scalar

/-- The last owner among types, by kind, is the last owner among their keys. -/
theorem ownerKind?_map_key (types : List NamedType) (fullName : String) :
    ownerKind? (types.map NamedType.key) fullName =
      (types.reverse.find? fun type ↦ type.fullName = fullName).map NamedType.kind := by
  rw [ownerKind?, ← List.map_reverse]
  induction types.reverse with
  | nil => rfl
  | cons type rest ih =>
    by_cases hname : type.fullName = fullName
    · simp [NamedType.key, hname]
    · have hkey : (fullName == type.fullName) = false := by simpa using Ne.symm hname
      simp [List.lookup_cons, NamedType.key, hname, hkey] at ih ⊢
      exact ih

namespace Context

variable {context : Context} {scope : String} {parent : Option String} {path : List Int}

theorem resolve_eq_ok {expected : TypeKind} {fullName found : String}
    (h : context.resolve expected fullName = .ok found) :
    found = fullName ∧ ownerKind? context.names fullName = some expected := by
  unfold resolve at h
  split_ifs at h with howner
  cases h
  exact ⟨rfl, howner⟩

theorem map_resolve_eq_ok {expected : TypeKind} {fullName : String} {toLink : String → Link}
    {link : Link} (h : (context.resolve expected fullName).map toLink = .ok link) :
    link = toLink fullName ∧ ownerKind? context.names fullName = some expected := by
  cases hresolve : context.resolve expected fullName with
  | error e =>
    rw [hresolve] at h
    cases h
  | ok found =>
    rw [hresolve] at h
    cases h
    obtain ⟨rfl, howner⟩ := resolve_eq_ok hresolve
    exact ⟨rfl, howner⟩

theorem keys_linkEnums (place : Place) (enums : List Descriptor.Enum) :
    (context.linkEnums scope parent place path enums).map (NamedType.key ∘ .enum) =
      enums.map fun e ↦ (qualify scope e.name, TypeKind.enum) := by
  rw [linkEnums, List.map_map]
  have hkey : (NamedType.key ∘ NamedType.enum) ∘ (fun pair : Descriptor.Enum × Nat ↦
      context.linkEnum scope parent (place.path path pair.2) pair.1) =
        (fun e : Descriptor.Enum ↦ (qualify scope e.name, TypeKind.enum)) ∘ Prod.fst := rfl
  rw [hkey, ← List.map_map, List.zipIdx_map_fst]

mutual

/-- A linked message declares the names that its descriptor declares. -/
theorem keys_linkMessage {scope : String} {parent : Option String} {path : List Int} :
    ∀ (descriptor : Descriptor.Message) {message : Message},
      context.linkMessage scope parent path descriptor = .ok message →
        message.types.map NamedType.key = namesOfMessage scope descriptor
  | ⟨name, fields, messages, enums, mapEntry⟩, message, h => by
    rw [linkMessage] at h
    obtain ⟨nested, hnested, h⟩ := exists_of_bind_eq_ok h
    obtain ⟨linked, -, h⟩ := exists_of_bind_eq_ok h
    cases h
    have hmessages := keys_linkMessages messages hnested
    rw [namesOfMessage, Message.types]
    simp only [List.map_append, List.map_cons, List.map_map, hmessages, keys_linkEnums]
    rfl

theorem keys_linkMessages {scope : String} {parent : Option String} {place : Place}
    {path : List Int} {i : Nat} : ∀ (descriptors : List Descriptor.Message)
      {messages : List Message},
      context.linkMessages scope parent place path i descriptors = .ok messages →
        (typesOfMessages messages).map NamedType.key = namesOfMessages scope descriptors
  | [], messages, h => by
    cases h
    rfl
  | descriptor :: rest, messages, h => by
    rw [linkMessages] at h
    obtain ⟨first, hfirst, h⟩ := exists_of_bind_eq_ok h
    obtain ⟨others, hothers, h⟩ := exists_of_bind_eq_ok h
    cases h
    rw [typesOfMessages, namesOfMessages, List.map_append, keys_linkMessage descriptor hfirst,
      keys_linkMessages rest hothers]

end

theorem fieldResolved_linkField {descriptor : Descriptor.Field} {field : Field}
    (h : context.linkField path descriptor = .ok field) :
    FieldResolved context.names field := by
  obtain ⟨link, hlink, h⟩ := exists_of_bind_eq_ok h
  cases h
  unfold linkType at hlink
  unfold FieldResolved
  split at hlink
  · next htype =>
    obtain ⟨rfl, howner⟩ := map_resolve_eq_ok hlink
    simp only [htype]
    exact ⟨_, rfl, howner⟩
  · next htype =>
    obtain ⟨rfl, howner⟩ := map_resolve_eq_ok hlink
    simp only [htype]
    exact ⟨_, rfl, howner⟩
  · next hmessage henum =>
    cases hlink
    cases htype : descriptor.type with
    | message => exact absurd htype hmessage
    | enum => exact absurd htype henum
    | _ => rfl

mutual

/-- All fields of the messages in a linked message are resolved. -/
theorem fieldResolved_linkMessage {scope : String} {parent : Option String} {path : List Int} :
    ∀ (descriptor : Descriptor.Message) {message : Message},
      context.linkMessage scope parent path descriptor = .ok message →
        ∀ inner, .message inner ∈ message.types → ∀ field ∈ inner.fields,
          FieldResolved context.names field
  | ⟨name, fields, messages, enums, mapEntry⟩, message, h => by
    rw [linkMessage] at h
    obtain ⟨nested, hnested, h⟩ := exists_of_bind_eq_ok h
    obtain ⟨linked, hlinked, h⟩ := exists_of_bind_eq_ok h
    cases h
    intro inner hinner field hfield
    rw [Message.types] at hinner
    rcases List.mem_append.mp hinner with hinner | henum
    · rcases List.mem_cons.mp hinner with hself | hinner
      · cases hself
        obtain ⟨pair, -, hpair⟩ := exists_mem_of_forall₂ (forall₂_of_mapM_eq_ok hlinked) hfield
        exact fieldResolved_linkField hpair
      · exact fieldResolved_linkMessages messages hnested inner hinner field hfield
    · simp at henum

theorem fieldResolved_linkMessages {scope : String} {parent : Option String} {place : Place}
    {path : List Int} {i : Nat} : ∀ (descriptors : List Descriptor.Message)
      {messages : List Message},
      context.linkMessages scope parent place path i descriptors = .ok messages →
        ∀ inner, .message inner ∈ typesOfMessages messages → ∀ field ∈ inner.fields,
          FieldResolved context.names field
  | [], messages, h => by
    cases h
    intro inner hinner
    cases hinner
  | descriptor :: rest, messages, h => by
    rw [linkMessages] at h
    obtain ⟨first, hfirst, h⟩ := exists_of_bind_eq_ok h
    obtain ⟨others, hothers, h⟩ := exists_of_bind_eq_ok h
    cases h
    intro inner hinner
    rw [typesOfMessages] at hinner
    rcases List.mem_append.mp hinner with hinner | hinner
    · exact fieldResolved_linkMessage descriptor hfirst inner hinner
    · exact fieldResolved_linkMessages rest hothers inner hinner

end

theorem keys_linkTypes {descriptor : Descriptor.File} {file : File}
    (h : context.linkTypes descriptor = .ok file) :
    file.types.map NamedType.key = namesOfFile descriptor := by
  obtain ⟨messages, hmessages, h⟩ := exists_of_bind_eq_ok h
  cases h
  simp only [File.types, namesOfFile, List.map_append, List.map_map,
    keys_linkMessages _ hmessages, keys_linkEnums]

theorem fieldResolved_linkTypes {descriptor : Descriptor.File} {file : File}
    (h : context.linkTypes descriptor = .ok file) :
    ∀ message, .message message ∈ file.types → ∀ field ∈ message.fields,
      FieldResolved context.names field := by
  obtain ⟨messages, hmessages, h⟩ := exists_of_bind_eq_ok h
  cases h
  intro message hmessage
  rcases List.mem_append.mp hmessage with hmessage | henum
  · exact fieldResolved_linkMessages _ hmessages message hmessage
  · simp at henum

theorem methodResolved_linkServices {descriptor : Descriptor.File} {services : List Service}
    (h : context.linkServices descriptor = .ok services) :
    ∀ service ∈ services, ∀ method ∈ service.methods,
      ownerKind? context.names method.input = some .message ∧
        ownerKind? context.names method.output = some .message := by
  intro service hservice method hmethod
  obtain ⟨_, -, hlink⟩ := exists_mem_of_forall₂ (forall₂_of_mapM_eq_ok h) hservice
  obtain ⟨methods, hmethods, hlink⟩ := exists_of_bind_eq_ok hlink
  cases hlink
  obtain ⟨_, -, hlink⟩ := exists_mem_of_forall₂ (forall₂_of_mapM_eq_ok hmethods) hmethod
  obtain ⟨input, hinput, hlink⟩ := exists_of_bind_eq_ok hlink
  obtain ⟨output, houtput, hlink⟩ := exists_of_bind_eq_ok hlink
  cases hlink
  obtain ⟨rfl, hinputOwner⟩ := resolve_eq_ok hinput
  obtain ⟨rfl, houtputOwner⟩ := resolve_eq_ok houtput
  exact ⟨hinputOwner, houtputOwner⟩

end Context

/-- A file as linking makes it against a list of names: its types first, and then its services. -/
def FileLinked (names : List (String × TypeKind)) (descriptor : Descriptor.File)
    (file : File) : Prop :=
  ∃ declaration services,
    (Context.mk names descriptor.locations).linkTypes descriptor = .ok declaration ∧
    (Context.mk names descriptor.locations).linkServices descriptor = .ok services ∧
    file = { declaration with services }

theorem fileLinked_of_link {set : List Descriptor.File} {schema : Schema}
    (h : Schema.link set = .ok schema) :
    List.Forall₂ (FileLinked (set.flatMap namesOfFile)) set schema.files := by
  obtain ⟨typed, htyped, h⟩ := exists_of_bind_eq_ok h
  obtain ⟨files, hfiles, h⟩ := exists_of_bind_eq_ok h
  cases h
  refine (forall₂_of_forall₂_zip (forall₂_of_mapM_eq_ok htyped)
    (forall₂_of_mapM_eq_ok hfiles)).imp ?_
  rintro descriptor file ⟨declaration, hdeclaration, hfile⟩
  obtain ⟨services, hservices, hfile⟩ := exists_of_bind_eq_ok hfile
  cases hfile
  exact ⟨declaration, services, hdeclaration, hservices, rfl⟩

theorem keys_of_fileLinked {names : List (String × TypeKind)} {set : List Descriptor.File}
    {files : List File} (h : List.Forall₂ (FileLinked names) set files) :
    (files.flatMap File.types).map NamedType.key = set.flatMap namesOfFile := by
  induction h with
  | nil => rfl
  | cons hfile _ ih =>
    obtain ⟨declaration, services, hdeclaration, -, rfl⟩ := hfile
    have htypes : ({ declaration with services } : File).types = declaration.types := rfl
    rw [List.flatMap_cons, List.flatMap_cons, List.map_append, ih, htypes,
      Context.keys_linkTypes hdeclaration]

/-- A linked schema declares the names that its references were resolved against. -/
theorem keys_of_link {set : List Descriptor.File} {schema : Schema}
    (h : Schema.link set = .ok schema) :
    schema.types.map NamedType.key = set.flatMap namesOfFile :=
  keys_of_fileLinked (fileLinked_of_link h)

theorem ownerKind?_of_link {set : List Descriptor.File} {schema : Schema}
    (h : Schema.link set = .ok schema) (fullName : String) :
    ownerKind? (set.flatMap namesOfFile) fullName =
      (schema.owner? fullName).map NamedType.kind := by
  rw [← keys_of_link h]
  exact ownerKind?_map_key schema.types fullName

end Linking

namespace Schema

theorem exists_message?_of_kind {schema : Schema} {fullName : String}
    (h : (schema.owner? fullName).map NamedType.kind = some .message) :
    ∃ message, schema.message? fullName = some message ∧ message.fullName = fullName := by
  obtain ⟨type, howner, hkind⟩ := Option.map_eq_some_iff.mp h
  cases type with
  | message message =>
    exact ⟨message, message?_eq_some_iff.mpr howner, fullName_of_owner? howner⟩
  | enum enum => cases hkind

theorem exists_enum?_of_kind {schema : Schema} {fullName : String}
    (h : (schema.owner? fullName).map NamedType.kind = some .enum) :
    ∃ enum, schema.enum? fullName = some enum ∧ enum.fullName = fullName := by
  obtain ⟨type, howner, hkind⟩ := Option.map_eq_some_iff.mp h
  cases type with
  | message message => cases hkind
  | enum enum => exact ⟨enum, enum?_eq_some_iff.mpr howner, fullName_of_owner? howner⟩

theorem fieldLinked_of_fieldResolved {set : List Descriptor.File} {schema : Schema}
    (h : Schema.link set = .ok schema) {field : Field}
    (hfield : FieldResolved (set.flatMap namesOfFile) field) : schema.FieldLinked field := by
  unfold FieldResolved at hfield
  unfold FieldLinked
  split at hfield
  · obtain ⟨fullName, hlink, howner⟩ := hfield
    rw [ownerKind?_of_link h] at howner
    obtain ⟨message, hmessage, rfl⟩ := exists_message?_of_kind howner
    exact ⟨message, hlink, hmessage⟩
  · obtain ⟨fullName, hlink, howner⟩ := hfield
    rw [ownerKind?_of_link h] at howner
    obtain ⟨enum, henum, rfl⟩ := exists_enum?_of_kind howner
    exact ⟨enum, hlink, henum⟩
  · exact hfield

/-- Every reference of a linked descriptor set has an owner of the right kind. -/
theorem linked_of_link {set : List Descriptor.File} {schema : Schema}
    (h : Schema.link set = .ok schema) : schema.Linked where
  field := by
    intro message hmessage field hfield
    obtain ⟨file, hfile, hmessage⟩ := List.mem_flatMap.mp hmessage
    obtain ⟨_, -, declaration, services, hdeclaration, -, rfl⟩ :=
      exists_mem_of_forall₂ (fileLinked_of_link h) hfile
    exact fieldLinked_of_fieldResolved h
      (Context.fieldResolved_linkTypes hdeclaration message hmessage field hfield)
  method := by
    intro file hfile service hservice method hmethod
    obtain ⟨_, -, declaration, services, -, hservices, rfl⟩ :=
      exists_mem_of_forall₂ (fileLinked_of_link h) hfile
    obtain ⟨hinput, houtput⟩ :=
      Context.methodResolved_linkServices hservices service hservice method hmethod
    rw [ownerKind?_of_link h] at hinput houtput
    obtain ⟨input, hinput, -⟩ := exists_message?_of_kind hinput
    obtain ⟨output, houtput, -⟩ := exists_message?_of_kind houtput
    exact ⟨by simp [hinput], by simp [houtput]⟩

end Schema

end ClientGen
