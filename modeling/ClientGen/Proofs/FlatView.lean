import ClientGen.Proofs.Flattening.Outcome
import ClientGen.Proofs.Flattening.Resolution
import ClientGen.Proofs.Session

/-!
# What the JSON form determines

The JSON form of a field is flatter than the field: it keeps one value text for a map, so that the
value tag is lost if the values have a named type. The line of the field needs that tag only to see
that it has no primitive. In a flattened service a map with named values has a message or enum tag
(`Record.Field.Tagged`), so that nothing is missing: the type of a field can be read off its flat
view (`fieldType_eq_flatType`), and services with the same JSON form have the same client, or fail
alike (`serviceText_of_json_eq`). The two chests in `Chest` are such services, and differ in a tag.
-/

set_option autoImplicit false
set_option relaxedAutoImplicit false

namespace ClientGen

open Declaration Flattening

namespace Record

/-! ### Records with the same JSON form -/

theorem Field.json_eq_iff {first second : Field} :
    first.json = second.json ↔ first.name = second.name ∧ first.type = second.type ∧
      first.typeName = second.typeName ∧ first.comment = second.comment ∧
      first.isMap = second.isMap ∧ first.isRepeated = second.isRepeated ∧
      first.mapKey = second.mapKey ∧ first.mapValue = second.mapValue := by
  simp [Field.json]

theorem Message.json_eq_iff {first second : Message} :
    first.json = second.json ↔ first.name = second.name ∧ first.comment = second.comment ∧
      first.fields.map Field.json = second.fields.map Field.json := by
  simp [Message.json]

theorem Service.json_eq_iff {first second : Service} :
    first.json = second.json ↔ first.name = second.name ∧ first.comment = second.comment ∧
      first.messages.map Message.json = second.messages.map Message.json ∧
      first.calls.map Call.json = second.calls.map Call.json ∧
      first.enums.map Enum.json = second.enums.map Enum.json := by
  simp [Service.json]

theorem Call.json_injective : Function.Injective Call.json := by
  rintro ⟨⟩ ⟨⟩ h
  simp only [Call.json, Json.object.injEq, List.cons.injEq, Prod.mk.injEq, Json.text.injEq] at h
  simp [h]

theorem EnumItem.json_injective : Function.Injective EnumItem.json := by
  rintro ⟨⟩ ⟨⟩ h
  simp only [EnumItem.json, Json.object.injEq, List.cons.injEq, Prod.mk.injEq, Json.text.injEq,
    Json.number.injEq] at h
  simp [h]

theorem Enum.json_injective : Function.Injective Enum.json := by
  rintro ⟨name, comment, items⟩ ⟨name', comment', items'⟩ h
  simp only [Enum.json, Json.object.injEq, List.cons.injEq, Prod.mk.injEq, Json.text.injEq,
    Json.list.injEq, true_and, and_true] at h
  obtain ⟨rfl, rfl, hitems⟩ := h
  rw [List.map_injective_iff.mpr EnumItem.json_injective hitems]

/-- A map whose values have a name has values of a message or enum type. -/
def Field.Tagged (field : Field) : Prop :=
  match field.kind with
  | .map _ valueType valueName => valueName ≠ "" →
      valueType = FieldType.message.tag ∨ valueType = FieldType.enum.tag
  | _ => True

end Record

/-! ### Lines from the flat view -/

namespace TypeScript

/-- The type of a field, from its flat view. -/
def flatType (field : Record.Field) : String :=
  if field.isMap then
    "\x7b [key: " ++ typeText field.mapKey field.mapKey ++ "]: " ++
      (if field.typeName = "" then typeText field.mapValue "" else field.typeName) ++ " \x7d"
  else typeText field.type field.typeName ++ if field.isRepeated then "[]" else ""

variable {first second : Record.Field}

/-- The tags of messages and enums have no primitive. -/
theorem typeText_of_named {tag name : String}
    (h : tag = FieldType.message.tag ∨ tag = FieldType.enum.tag) : typeText tag name = name := by
  rcases h with rfl | rfl <;> rfl

theorem fieldType_eq_flatType {field : Record.Field} (h : field.Tagged) :
    fieldType field = flatType field := by
  obtain ⟨name, type, kind, comment⟩ := field
  cases kind with
  | scalar tag repeated => rfl
  | reference typeName repeated => rfl
  | map keyType valueType valueName =>
    by_cases hname : valueName = ""
    · simp [fieldType, flatType, Record.Field.isMap, Record.Field.mapKey, Record.Field.typeName,
        Record.Field.mapValue, hname]
    · have htext : typeText valueType valueName = valueName := typeText_of_named (h hname)
      simp [fieldType, flatType, Record.Field.isMap, Record.Field.mapKey, Record.Field.typeName,
        hname, htext]

theorem flatType_of_json_eq (h : first.json = second.json) : flatType first = flatType second := by
  obtain ⟨-, htype, htypeName, -, hisMap, hisRepeated, hmapKey, hmapValue⟩ :=
    Record.Field.json_eq_iff.mp h
  unfold flatType
  rw [htype, htypeName, hisMap, hisRepeated, hmapKey, hmapValue]

/-- Assumes: two fields whose named map values have a message or enum tag. If they have the same
JSON form, they have the same line. -/
theorem fieldLine_of_json_eq (hfirst : first.Tagged) (hsecond : second.Tagged)
    (h : first.json = second.json) (ownComments : Bool) (container : String) :
    fieldLine ownComments container first = fieldLine ownComments container second := by
  obtain ⟨hname, -, -, hcomment, -⟩ := Record.Field.json_eq_iff.mp h
  unfold fieldLine
  rw [fieldType_eq_flatType hfirst, fieldType_eq_flatType hsecond, flatType_of_json_eq h, hname,
    hcomment]

/-- Without the tag of a message or an enum the JSON form does not determine the line. -/
example :
    let first : Record.Field := ⟨"parts", "TYPE_MESSAGE", .map "TYPE_INT32" "TYPE_ENUM" "Part", ""⟩
    let second : Record.Field := ⟨"parts", "TYPE_MESSAGE", .map "TYPE_INT32" "TYPE_BOOL" "Part", ""⟩
    first.json = second.json ∧ fieldLine false "" first ≠ fieldLine false "" second := by
  refine ⟨rfl, ?_⟩
  decide

theorem interfaceText_of_json_eq {first second : Record.Message}
    (hfirst : ∀ field ∈ first.fields, field.Tagged)
    (hsecond : ∀ field ∈ second.fields, field.Tagged) (h : first.json = second.json)
    (ownComments : Bool) : interfaceText ownComments first = interfaceText ownComments second := by
  obtain ⟨hname, hcomment, hfields⟩ := Record.Message.json_eq_iff.mp h
  have hlines : first.fields.map (fieldLine ownComments first.comment) =
      second.fields.map (fieldLine ownComments first.comment) :=
    map_eq_map_of_map_eq hfields fun field hfield other hother heq ↦
      fieldLine_of_json_eq (hfirst field hfield) (hsecond other hother) heq _ _
  unfold interfaceText interfaceLines
  rw [hlines, hname, hcomment]

end TypeScript

/-! ### Flattened fields are tagged -/

namespace Schema

variable {schema : Schema} {given : List (String × String)} {field subject : Field}

/-- A linked field that refers to a type under a name has a message or enum type. -/
theorem FieldLinked.tag_of_referentName (h : schema.FieldLinked subject)
    (hname : schema.referentName given subject ≠ "") :
    subject.type.tag = FieldType.message.tag ∨ subject.type.tag = FieldType.enum.tag := by
  have hreferent : (schema.referent? subject).isSome := by
    by_contra hnone
    rw [Option.not_isSome_iff_eq_none] at hnone
    exact hname (by simp [referentName, hnone])
  exact (h.isSome_referent?_iff.mp hreferent).imp (congrArg _) (congrArg _)

/-- Assumes: a field whose subject is linked. -/
theorem tagged_flatField
    (hlinked : ∀ subject, schema.subject? field = some subject → schema.FieldLinked subject)
    (hsubject : schema.subject? field = some subject) :
    (schema.flatField given field).Tagged := by
  rcases subject?_eq_some hsubject with ⟨key, hentry⟩ | ⟨hentry, rfl⟩
  · cases htext : schema.isText subject with
    | true =>
      simp only [Record.Field.Tagged, kind_flatField_map_text hentry htext]
      exact fun hname ↦ absurd rfl hname
    | false =>
      simp only [Record.Field.Tagged, kind_flatField_map hentry (by simp [htext])]
      exact (hlinked subject hsubject).tag_of_referentName
  · have hkind (keyType valueType valueName : String) :
        (schema.flatField given subject).kind ≠ .map keyType valueType valueName := by
      simp only [flatField, flatKind, hentry]
      split_ifs <;> simp
    unfold Record.Field.Tagged
    split
    · next hmap => exact absurd hmap (hkind _ _ _)
    · trivial

end Schema

/-- Assumes: a linked descriptor set, a service of one of its files, and a result of flattening it.
-/
theorem Flattening.tagged_of_flatten {set : List Descriptor.File} {schema : Schema} {file : File}
    {service : Service} {strict : Bool} {result : Result} (hlink : Schema.link set = .ok schema)
    (hfile : file ∈ schema.files) (hservice : service ∈ file.services)
    (hresult : flatten schema strict service = .ok result) {record : Record.Message}
    (hrecord : record ∈ result.service.messages) {field : Record.Field}
    (hfield : field ∈ record.fields) : field.Tagged := by
  obtain ⟨s, -, rfl, -, hsound⟩ := exists_sound_of_flatten hlink hfile hservice hresult
  obtain ⟨message, hfirst, hnamed, rfl⟩ := hsound.exists_flatMessage hrecord
  obtain ⟨declared, hdeclared, rfl⟩ := List.mem_map.mp hfield
  obtain ⟨subject, hsubject⟩ := Option.isSome_iff_exists.mp (hnamed declared hdeclared).subject
  have hmessage := mem_types_of_firstGiven? hfirst
  exact Schema.tagged_flatField
    (fun _ ↦ (Schema.linked_of_link hlink).subject hmessage hdeclared) hsubject

/-- Assumes: two services that stem each from a linked descriptor set, flattened in either mode, and
have the same JSON form. Whatever client is written, and from whatever session, both services give
the same text or the same failure, and leave the same session. If the template of the client is
repeatable, only the sandbox of a session counts: from sessions with the same sandbox, both give the
same text or the same failure, and leave the same sandbox. In particular, fields of the two with the
same JSON form have the same line. -/
theorem serviceText_of_json_eq {set set' : List Descriptor.File} {schema schema' : Schema}
    {file file' : File} {service service' : Service} {strict strict' : Bool}
    {result result' : Result} (hlink : Schema.link set = .ok schema)
    (hlink' : Schema.link set' = .ok schema') (hfile : file ∈ schema.files)
    (hfile' : file' ∈ schema'.files) (hservice : service ∈ file.services)
    (hservice' : service' ∈ file'.services)
    (hresult : flatten schema strict service = .ok result)
    (hresult' : flatten schema' strict' service' = .ok result')
    (hjson : result.service.json = result'.service.json) :
    (∀ (client : Client) (session : Client.Session),
      (client.serviceText result.service).run.run session =
        (client.serviceText result'.service).run.run session) ∧
    (∀ client : Client, client.template.Repeatable →
      ∀ first second : Client.Session, first.sandbox = second.sandbox →
        ((client.serviceText result.service).run.run first).1 =
            ((client.serviceText result'.service).run.run second).1 ∧
          ((client.serviceText result.service).run.run first).2.sandbox =
            ((client.serviceText result'.service).run.run second).2.sandbox) ∧
    ∀ record ∈ result.service.messages, ∀ field ∈ record.fields,
      ∀ record' ∈ result'.service.messages, ∀ field' ∈ record'.fields, field.json = field'.json →
        ∀ ownComments container, TypeScript.fieldLine ownComments container field =
          TypeScript.fieldLine ownComments container field' := by
  have htagged : ∀ record ∈ result.service.messages, ∀ field ∈ record.fields, field.Tagged :=
    fun _ hrecord _ ↦ tagged_of_flatten hlink hfile hservice hresult hrecord
  have htagged' : ∀ record ∈ result'.service.messages, ∀ field ∈ record.fields, field.Tagged :=
    fun _ hrecord _ ↦ tagged_of_flatten hlink' hfile' hservice' hresult' hrecord
  obtain ⟨-, -, hmessages, hcalls, henums⟩ := Record.Service.json_eq_iff.mp hjson
  have hcallsEq : result.service.calls = result'.service.calls :=
    List.map_injective_iff.mpr Record.Call.json_injective hcalls
  have henumsEq : result.service.enums = result'.service.enums :=
    List.map_injective_iff.mpr Record.Enum.json_injective henums
  have hsteps (client : Client) :
      client.serviceText result.service = client.serviceText result'.service := by
    have htexts : result.service.messages.map client.messageText =
        result'.service.messages.map client.messageText :=
      map_eq_map_of_map_eq hmessages fun record hrecord other hother heq ↦
        TypeScript.interfaceText_of_json_eq (htagged record hrecord) (htagged' other hother) heq _
    unfold Client.serviceText
    rw [hcallsEq, henumsEq, htexts]
  refine ⟨fun client session ↦ by rw [hsteps client], fun client hrepeatable first second hsame ↦ ?_,
    fun record hrecord field hfield record' hrecord' field' hfield' ↦
      TypeScript.fieldLine_of_json_eq (htagged record hrecord field hfield)
        (htagged' record' hrecord' field' hfield')⟩
  have halike : Client.Session.Alike Eq (fun _ _ ↦ True) first second := ⟨hsame, trivial⟩
  have hrespects := Client.serviceText_respects
    (fun place script arguments ↦ Respects.eq (Sandbox.run place script arguments))
    hrepeatable.respects result'.service
  rw [hsteps client]
  exact ⟨hrespects.result first second halike, (hrespects.next first second halike).sandbox⟩

/-! ### A message and an enum of one name -/

namespace Chest

/-- The descriptors of a chest, whose parts by name are items as a message or as an enum. -/
def descriptors (type : FieldType) (typeName : String) : List Descriptor.File :=
  [{ name := "kinds.proto"
     package := "kinds"
     enums := [{ name := "Item", values := [("COIN", 0)] }] },
   { name := "chest.proto"
     package := "chest"
     messages := [
       { name := "Item" },
       { name := "Chest"
         fields := [
           { name := "first", jsonName := some "first", type := .message
             typeName := ".chest.Item" },
           { name := "kind", jsonName := some "kind", type := .enum, typeName := ".kinds.Item" },
           { name := "parts", jsonName := some "parts", type := .message, repeated := true
             typeName := ".chest.Chest.PartsEntry" }]
         messages := [
           { name := "PartsEntry"
             mapEntry := true
             fields := [
               { name := "key", jsonName := some "key", type := .string },
               { name := "value", jsonName := some "value", type, typeName }] }] }]
     services := [
       { name := "Chests"
         methods := [
           { name := "Open", input := ".chest.Chest", output := ".chest.Chest"
             rule := some ⟨some (.get "/chest")⟩ }] }] }]

/-- The service of the chest. -/
def service : Service :=
  ⟨"Chests", "", "chest.proto",
    [⟨"Open", ".chest.Chest", ".chest.Chest", false, false, "", some ⟨some (.get "/chest")⟩⟩]⟩

/-- The file of the chest. -/
def file (value : Field) : File :=
  ⟨"chest.proto", "chest", [
    ⟨"Item", ".chest.Item", "", false, none, [], [], []⟩,
    ⟨"Chest", ".chest.Chest", "", false, none, [
      ⟨"first", "first", .message, false, "", .message ".chest.Item"⟩,
      ⟨"kind", "kind", .enum, false, "", .enum ".kinds.Item"⟩,
      ⟨"parts", "parts", .message, true, "", .message ".chest.Chest.PartsEntry"⟩], [
      ⟨"PartsEntry", ".chest.Chest.PartsEntry", "", true, some ".chest.Chest",
        [⟨"key", "key", .string, false, "", .scalar⟩, value], [], []⟩], []⟩], [], [service]⟩

/-- The linked chest. -/
def schema (value : Field) : Schema :=
  ⟨[⟨"kinds.proto", "kinds", [], [⟨"Item", ".kinds.Item", "", none, [⟨"COIN", 0, ""⟩]⟩], []⟩,
    file value]⟩

/-- The field of the parts by name, with the tag of their type. -/
def flatParts (tag : String) : Record.Field :=
  ⟨"parts", "TYPE_MESSAGE", .map "TYPE_STRING" tag "Item", ""⟩

/-- The record of a chest. -/
def flatChest (tag : String) : Record.Message :=
  ⟨"Chest", "", [
    ⟨"first", "TYPE_MESSAGE", .reference "Item" false, ""⟩,
    ⟨"kind", "TYPE_ENUM", .reference "Item" false, ""⟩, flatParts tag]⟩

/-- The result of flattening the service of the chest, with a warning about its items. -/
def result (tag : String) : Result where
  service := {
    name := "Chests"
    comment := ""
    calls := [⟨"Open", "GET", "/chest", "Chest", "Chest", ""⟩]
    messages := [⟨"Item", "", []⟩, flatChest tag]
    enums := [⟨"Item", "", [⟨"COIN", 0, ""⟩]⟩] }
  visits := [⟨"Chest", ".chest.Chest", 0⟩, ⟨"Item", ".chest.Item", 0⟩]
  events := [.collision (.mixed "Item" "Chests" ".chest.Item" ".kinds.Item")]

/-- Parts that are messages. -/
def messageValue : Field :=
  ⟨"value", "value", .message, false, "", .message ".chest.Item"⟩

/-- Parts that are enums. -/
def enumValue : Field :=
  ⟨"value", "value", .enum, false, "", .enum ".kinds.Item"⟩

theorem link_message :
    Schema.link (descriptors .message ".chest.Item") = .ok (schema messageValue) := by
  rfl

theorem link_enum :
    Schema.link (descriptors .enum ".kinds.Item") = .ok (schema enumValue) := by
  rfl

theorem flatten_message :
    flatten (schema messageValue) false service = .ok (result "TYPE_MESSAGE") := by
  simp only [flatten, service, List.foldlM_cons, List.foldlM_nil, Context.walkMethod,
    Context.walkRoute, Context.walkMessage, Context.drain_eq]
  decide +kernel

theorem flatten_enum : flatten (schema enumValue) false service = .ok (result "TYPE_ENUM") := by
  simp only [flatten, service, List.foldlM_cons, List.foldlM_nil, Context.walkMethod,
    Context.walkRoute, Context.walkMessage, Context.drain_eq]
  decide +kernel

/-- A client without lines of its own, which writes each call as its name. -/
def client : Client where
  imports := .ok []
  template := .ofNodes [.print (.name "name")]
  overrides := []
  ownComments := false

/-- A session with its engine in a state. -/
def session (engine : Template.State) : Client.Session :=
  { sandbox := {}, engine := engine }

/-- The two chests differ in the tag of their parts, and have the same client, also if the engine
has done something else in between. -/
theorem client_eq :
    flatParts "TYPE_MESSAGE" ≠ flatParts "TYPE_ENUM" ∧
      (∀ (client : Client) (session : Client.Session),
        (client.serviceText (result "TYPE_MESSAGE").service).run.run session =
          (client.serviceText (result "TYPE_ENUM").service).run.run session) ∧
      (client.template.Repeatable ∧ (session 0).sandbox = (session 1).sandbox ∧
        ((client.serviceText (result "TYPE_MESSAGE").service).run.run (session 0)).1 =
          ((client.serviceText (result "TYPE_ENUM").service).run.run (session 1)).1) ∧
      TypeScript.fieldLine true "" (flatParts "TYPE_MESSAGE") =
        TypeScript.fieldLine true "" (flatParts "TYPE_ENUM") := by
  have hfield (tag : String) : flatParts tag ∈ (flatChest tag).fields :=
    .tail _ (.tail _ (.head _))
  have hrecord (tag : String) : flatChest tag ∈ (result tag).service.messages :=
    .tail _ (.head _)
  have hrepeatable : client.template.Repeatable := Template.Renderer.repeatable_ofNodes _
  have hsame : (session 0).sandbox = (session 1).sandbox := rfl
  obtain ⟨htext, hrepeated, hlines⟩ := serviceText_of_json_eq link_message link_enum
    (List.mem_cons_of_mem _ (List.mem_singleton_self (file messageValue)))
    (List.mem_cons_of_mem _ (List.mem_singleton_self (file enumValue)))
    (List.mem_singleton_self service) (List.mem_singleton_self service)
    flatten_message flatten_enum rfl
  exact ⟨by decide, htext,
    ⟨hrepeatable, hsame, (hrepeated client hrepeatable _ _ hsame).1⟩,
    hlines _ (hrecord _) _ (hfield _) _ (hrecord _) _ (hfield _) rfl true ""⟩

end Chest

end ClientGen
