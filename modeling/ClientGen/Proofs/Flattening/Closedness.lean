import ClientGen.Client
import ClientGen.Proofs.Flattening.Faithfulness
import ClientGen.Proofs.TypeScript.TypeExpr

/-!
# Which interfaces are closed

A field line is closed if its type is built of primitives and of the names that the records of the
service declare. The flat name that a record refers to is always declared (`Sound.mem_declared`),
and the type of a field follows from the table (`ofField_flatField_map`, `ofField_flatField_plain`).
What remains are three gaps, and `flatten_closed` shows that there are no others: bytes and groups
have neither a primitive nor a name, so that nothing is written for them; a type may be declared
under the empty name; and the key of a map may lack a primitive, in which case its tag is written.
-/

set_option autoImplicit false
set_option relaxedAutoImplicit false

namespace ClientGen

open Declaration Flattening TypeScript

namespace Schema

variable {schema : Schema} {given : List (String × String)} {field subject key value : Field}

/-- What is written for the subject of a field, under a table of flat names. -/
def subjectText (schema : Schema) (given : List (String × String)) (subject : Field) : String :=
  if schema.isText subject then typeText FieldType.string.tag ""
  else typeText subject.type.tag (schema.referentName given subject)

/-- The subject of a field has a primitive, or refers to a type whose flat name is not empty. -/
structure Writable (schema : Schema) (given : List (String × String)) (subject : Field) : Prop where
  not_bytes : subject.type ≠ .bytes
  not_group : subject.type ≠ .group
  ne_empty : ∀ type, schema.referent? subject = some type → type.isTimestamp = false →
    given.lookup type.fullName ≠ some ""

/-! ### The type of a field -/

theorem ofField_flatField_map (hentry : schema.entry? field = some (key, value)) :
    TypeExpr.ofField (schema.flatField given field) =
      .map (typeText key.type.tag key.type.tag) (schema.subjectText given value) := by
  unfold subjectText
  by_cases htext : schema.isText value
  · rw [TypeExpr.ofField_of_map (kind_flatField_map_text hentry htext), if_pos htext]
  · rw [TypeExpr.ofField_of_map (kind_flatField_map hentry htext), if_neg htext]

theorem ofField_flatField_plain (hentry : schema.entry? field = none)
    (hsubject : schema.subject? field = some field) :
    TypeExpr.ofField (schema.flatField given field) =
      if field.repeated then .list (schema.subjectText given field)
      else .plain (schema.subjectText given field) := by
  unfold subjectText
  by_cases htext : schema.isText field
  · rw [TypeExpr.ofField_of_scalar (kind_flatField_text hentry htext),
      type_flatField_text hsubject htext, if_pos htext]
  · have htype : (schema.flatField given field).type = field.type.tag :=
      type_flatField hsubject htext
    cases hreferent : schema.referent? field with
    | some type =>
      have hkind : (schema.flatField given field).kind =
          .reference (schema.referentName given field) field.repeated :=
        kind_flatField_reference hentry htext (by simp [hreferent])
      rw [TypeExpr.ofField_of_reference hkind, htype, if_neg htext]
    | none =>
      have hkind : (schema.flatField given field).kind = .scalar field.type.tag field.repeated :=
        kind_flatField_scalar hentry hreferent
      have hname : schema.referentName given field = "" := by simp [referentName, hreferent]
      rw [TypeExpr.ofField_of_scalar hkind, htype, if_neg htext, hname]

/-! ### What is written for a subject -/

/-- A scalar is written by its primitive; bytes and groups have none. -/
theorem atom_subjectText_of_scalar {declared : List String}
    (hreferent : schema.referent? subject = none)
    (hscalar : ¬ (subject.type = .message ∨ subject.type = .enum)) :
    Atom declared (schema.subjectText given subject) ↔ schema.Writable given subject := by
  have htext : ¬ schema.isText subject := by simp [isText, hreferent]
  have hname : schema.referentName given subject = "" := by simp [referentName, hreferent]
  rw [subjectText, if_neg htext, hname, typeText_tag]
  cases hprimitive : Primitive.ofFieldType? subject.type with
  | none =>
    have hgap : subject.type = .bytes ∨ subject.type = .group :=
      ((ofFieldType?_eq_none_iff subject.type).mp hprimitive).resolve_left hscalar
    refine iff_of_false (fun hatom ↦ hatom.ne_empty rfl) fun hwritable ↦ ?_
    exact hgap.elim hwritable.not_bytes hwritable.not_group
  | some primitive =>
    refine iff_of_true (atom_primitive declared primitive) ⟨?_, ?_, by simp [hreferent]⟩
    · intro hbytes
      simp [hbytes, Primitive.ofFieldType?] at hprimitive
    · intro hgroup
      simp [hgroup, Primitive.ofFieldType?] at hprimitive

/-- A subject that refers to a type is writable if the flat name of that type is not empty, unless
the type stands for a timestamp. -/
theorem writable_iff_of_referent {type : NamedType}
    (hreferent : schema.referent? subject = some type)
    (hnamed : subject.type = .message ∨ subject.type = .enum) :
    schema.Writable given subject ↔
      (type.isTimestamp = false → given.lookup type.fullName ≠ some "") := by
  constructor
  · exact fun hwritable ↦ hwritable.ne_empty type hreferent
  · intro hne
    refine ⟨?_, ?_, ?_⟩
    · rcases hnamed with htype | htype <;> simp [htype]
    · rcases hnamed with htype | htype <;> simp [htype]
    · intro other hother
      rw [hreferent] at hother
      cases hother
      exact hne

/-- Assumes: the tag of a subject shows whether it refers to a type, and that type is named and
declared. -/
theorem atom_subjectText_iff {declared : List String}
    (htagged : (schema.referent? subject).isSome ↔ subject.type = .message ∨ subject.type = .enum)
    (hnamed : ∀ type, schema.referent? subject = some type → type.isTimestamp = false →
      ∃ name, given.lookup type.fullName = some name ∧ name ∈ declared) :
    Atom declared (schema.subjectText given subject) ↔ schema.Writable given subject := by
  cases hreferent : schema.referent? subject with
  | none =>
    refine atom_subjectText_of_scalar hreferent ?_
    rw [← htagged, hreferent]
    simp
  | some type =>
    have htype : subject.type = .message ∨ subject.type = .enum := htagged.mp (by simp [hreferent])
    rw [writable_iff_of_referent hreferent htype]
    by_cases hhidden : type.isTimestamp
    · have htext : schema.isText subject := by simp [isText, hreferent, hhidden]
      have hstring : typeText FieldType.string.tag "" = Primitive.string.text := typeText_tag _ _
      rw [subjectText, if_pos htext, hstring]
      exact iff_of_true (atom_primitive declared .string) (by simp [hhidden])
    · have hshown : type.isTimestamp = false := by simpa using hhidden
      have htext : ¬ schema.isText subject := by simp [isText, hreferent, hshown]
      obtain ⟨name, hlookup, hmem⟩ := hnamed type hreferent hshown
      have hname : schema.referentName given subject = name := by
        simp [referentName, hreferent, hlookup]
      have hnone : Primitive.ofFieldType? subject.type = none :=
        (ofFieldType?_eq_none_iff subject.type).mpr (.inl htype)
      rw [subjectText, if_neg htext, hname, typeText_tag, hnone, Option.map_none, Option.getD_none,
        atom_iff_ne_empty hmem]
      simp [hshown, hlookup]

/-- The key of a map field has a primitive or a declared tag, and the subject is writable. -/
structure Closable (schema : Schema) (given : List (String × String)) (declared : List String)
    (field : Field) : Prop where
  key : ∀ key value, schema.entry? field = some (key, value) →
    (Primitive.ofFieldType? key.type).isSome ∨ key.type.tag ∈ declared
  subject : ∀ subject, schema.subject? field = some subject → schema.Writable given subject

/-- Assumes: what a field refers to is settled, and the names in the table are declared. -/
theorem closed_ofField_iff {declared : List String} (h : FieldSettled schema given field)
    (hdeclared : ∀ fullName name, given.lookup fullName = some name → name ∈ declared) :
    (TypeExpr.ofField (schema.flatField given field)).Closed declared ↔
      schema.Closable given declared field := by
  obtain ⟨subject, hsubject⟩ := Option.isSome_iff_exists.mp h.subject
  have hatom : Atom declared (schema.subjectText given subject) ↔
      schema.Writable given subject := by
    refine atom_subjectText_iff (h.tagged subject hsubject) fun type hreferent hshown ↦ ?_
    obtain ⟨name, hname⟩ :=
      Option.isSome_iff_exists.mp (h.named subject type hsubject hreferent hshown)
    exact ⟨name, hname, hdeclared _ _ hname⟩
  have hwritable : (∀ other, schema.subject? field = some other → schema.Writable given other) ↔
      schema.Writable given subject := by
    simp [hsubject]
  rcases subject?_eq_some hsubject with ⟨key, hentry⟩ | ⟨hentry, rfl⟩
  · rw [ofField_flatField_map hentry]
    change Atom declared _ ∧ Atom declared _ ↔ _
    rw [hatom, atom_typeText_tag_iff]
    constructor
    · rintro ⟨hkey, hvalue⟩
      refine ⟨fun other value hother ↦ ?_, hwritable.mpr hvalue⟩
      rw [hentry] at hother
      cases hother
      exact hkey
    · exact fun h ↦ ⟨h.key key subject hentry, hwritable.mp h.subject⟩
  · have hclosed : (TypeExpr.ofField (schema.flatField given subject)).Closed declared ↔
        Atom declared (schema.subjectText given subject) := by
      rw [ofField_flatField_plain hentry hsubject]
      cases subject.repeated with
      | true => exact Iff.rfl
      | false => exact Iff.rfl
    rw [hclosed, hatom]
    constructor
    · exact fun h ↦ ⟨by simp [hentry], hwritable.mpr h⟩
    · exact fun h ↦ hwritable.mp h.subject

end Schema

/-- The names that the records of a service declare. -/
def Record.Service.declared (service : Record.Service) : List String :=
  service.messages.map Record.Message.name ++ service.enums.map Record.Enum.name

/-- Assumes: no message is being walked. Every name in the table is declared. -/
theorem Flattening.Sound.mem_declared {c : Context} {service : Service} {s : State}
    (h : Sound c service s) (hidle : s.stack = []) {fullName name : String}
    (hlookup : s.given.lookup fullName = some name) :
    name ∈ (s.result service).service.declared := by
  have hgiven := h.tabled.flatName?_eq_some_iff.mp hlookup
  obtain ⟨type, howner⟩ := Option.isSome_iff_exists.mp (h.tabled.declared _ _ hgiven)
  obtain rfl := Schema.fullName_of_owner? howner
  cases type with
  | message message =>
    have hmem := h.mem_names_messages hidle hgiven (Schema.message?_eq_some_iff.mpr howner)
    exact List.mem_append_left _ hmem
  | enum enum =>
    have hmem := h.mem_names_enums hgiven (Schema.enum?_eq_some_iff.mpr howner)
    exact List.mem_append_right _ hmem

/-- The text of an interface, with the types of its fields. -/
theorem Client.messageText_eq (client : Client) (record : Record.Message) :
    client.messageText record = unlines (commentLines record.comment ++
      ["export interface " ++ record.name ++ " \x7b"] ++
      record.fields.map (fun field ↦
        typedLine client.ownComments record.comment field (TypeExpr.ofField field)) ++
      ["\x7d"]) := by
  have hlines : record.fields.map (fieldLine client.ownComments record.comment) =
      record.fields.map fun field ↦
        typedLine client.ownComments record.comment field (TypeExpr.ofField field) :=
    List.map_congr_left fun field _ ↦ fieldLine_eq _ _ field
  rw [messageText, interfaceText, interfaceLines, hlines]

/-- Assumes: a linked descriptor set, a service of one of its files, and a result of flattening it.
Every client writes each record with the types of its fields, and these are closed over the names
that the service declares just for the closable fields. -/
theorem flatten_closed {set : List Descriptor.File} {schema : Schema} {file : File}
    {service : Service} {strict : Bool} {result : Result} (hlink : Schema.link set = .ok schema)
    (hfile : file ∈ schema.files) (hservice : service ∈ file.services)
    (hresult : flatten schema strict service = .ok result) (client : Client) :
    ∃ s, Context.run ⟨schema, service.name, strict⟩ service.methods = .ok s ∧
      s.result service = result ∧
      ∀ record ∈ result.service.messages, ∃ message,
        firstGiven? schema.message? s.given record.name = some message ∧
        record.fields = message.fields.map (schema.flatField s.given) ∧
        client.messageText record = unlines (commentLines record.comment ++
          ["export interface " ++ record.name ++ " \x7b"] ++
          record.fields.map (fun field ↦
            typedLine client.ownComments record.comment field (TypeExpr.ofField field)) ++
          ["\x7d"]) ∧
        ∀ field ∈ message.fields,
          (TypeExpr.ofField (schema.flatField s.given field)).Closed result.service.declared ↔
            schema.Closable s.given result.service.declared field := by
  obtain ⟨s, hruns, rfl, hidle, hsound⟩ := exists_sound_of_flatten hlink hfile hservice hresult
  refine ⟨s, hruns.eq_ok, rfl, fun record hrecord ↦ ?_⟩
  obtain ⟨message, hfirst, hsettled, heq⟩ := (hsound.faithful_result hlink).messages record hrecord
  refine ⟨message, hfirst, congrArg Record.Message.fields heq, client.messageText_eq record, ?_⟩
  intro field hfield
  exact Schema.closed_ofField_iff (hsettled field hfield) fun _ _ ↦ hsound.mem_declared hidle

namespace Shop

/-- A client without lines of its own. -/
def client : Client :=
  ⟨.ok [], .ofNodes [], [], false⟩

theorem flat_closed :
    ∃ s, Context.run ⟨schema, "Shop", true⟩ service.methods = .ok s ∧ s.result service = result ∧
      ∀ record ∈ flat.messages, ∃ message,
        firstGiven? schema.message? s.given record.name = some message ∧
        record.fields = message.fields.map (schema.flatField s.given) ∧
        client.messageText record = unlines (commentLines record.comment ++
          ["export interface " ++ record.name ++ " \x7b"] ++
          record.fields.map (fun field ↦
            typedLine false record.comment field (TypeExpr.ofField field)) ++ ["\x7d"]) ∧
        ∀ field ∈ message.fields,
          (TypeExpr.ofField (schema.flatField s.given field)).Closed flat.declared ↔
            schema.Closable s.given flat.declared field :=
  flatten_closed link_eq file_mem service_mem (flatten_eq true) client

/-- Nothing is written for the type of the seal of an order, which holds bytes. -/
theorem seal_unwritten :
    Schema.link descriptors = .ok schema ∧ file ∈ schema.files ∧ service ∈ file.services ∧
      (∀ strict, flatten schema strict service = .ok result) ∧
      ∃ record ∈ result.service.messages, ∃ field ∈ record.fields,
        (∀ client : Client,
          fieldLine client.ownComments record.comment field = "  seal: ;") ∧
        ¬ (TypeExpr.ofField field).Closed result.service.declared := by
  refine ⟨link_eq, file_mem, service_mem, flatten_eq, ?_⟩
  refine ⟨⟨"Order", "", [
    ⟨"lines", "TYPE_MESSAGE", .reference "Order_Line" true, ""⟩,
    ⟨"status", "TYPE_ENUM", .reference "Order_Status" false, ""⟩,
    ⟨"placed", "TYPE_STRING", .scalar "TYPE_STRING" false, ""⟩,
    ⟨"seal", "TYPE_BYTES", .scalar "TYPE_BYTES" false, ""⟩]⟩, by decide, ?_⟩
  refine ⟨⟨"seal", "TYPE_BYTES", .scalar "TYPE_BYTES" false, ""⟩, by decide, ?_, ?_⟩
  · exact fun client ↦ by rfl
  · exact fun hclosed ↦ hclosed.ne_empty (by rfl)

end Shop

end ClientGen
