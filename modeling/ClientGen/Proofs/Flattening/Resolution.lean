import ClientGen.Proofs.Flattening.Faithfulness

/-!
# No reference dangles

A record may be referred to before it exists, since the message behind it is still being walked, and
a name may belong to another type than the one that was reached. Still each reference in a finished
service resolves (`flatten_resolved`): what the subject of a field refers to has a name in the
table, and the table is covered by the records of each kind. The tag of the subject says which kind
that is, because the subject was linked.
-/

set_option autoImplicit false
set_option relaxedAutoImplicit false

namespace ClientGen

open Declaration Flattening

namespace FieldType

theorem ofTag?_tag (type : FieldType) : ofTag? type.tag = some type := by
  cases type <;> rfl

theorem tag_injective : Function.Injective tag := by
  intro first second htag
  have hread := congrArg ofTag? htag
  rw [ofTag?_tag, ofTag?_tag] at hread
  exact Option.some.inj hread

end FieldType

namespace Record

/-- A name under a type tag is that of a record of the kind that the tag says, and empty under any
other tag. -/
structure Service.Resolves (service : Service) (tag name : String) : Prop where
  message : tag = FieldType.message.tag → ∃ record ∈ service.messages, record.name = name
  enum : tag = FieldType.enum.tag → ∃ record ∈ service.enums, record.name = name
  other : tag ≠ FieldType.message.tag → tag ≠ FieldType.enum.tag → name = ""

/-- The tag of texts stands without a name. -/
theorem Service.Resolves.string (service : Service) : service.Resolves FieldType.string.tag "" where
  message := fun htag ↦ nomatch FieldType.tag_injective htag
  enum := fun htag ↦ nomatch FieldType.tag_injective htag
  other := fun _ _ ↦ rfl

/-- What a field refers to has a record. Only a field of a message or enum type is a reference. -/
def Field.Resolved (service : Service) (field : Field) : Prop :=
  match field.kind with
  | .scalar _ _ => True
  | .reference name _ =>
    (field.type = FieldType.message.tag ∨ field.type = FieldType.enum.tag) ∧
      service.Resolves field.type name
  | .map _ valueType valueName => service.Resolves valueType valueName

namespace Field

variable {service : Service} {field : Field}

theorem resolved_of_scalar {tag : String} {repeated : Bool}
    (h : field.kind = .scalar tag repeated) : field.Resolved service := by
  simp only [Resolved, h]

theorem resolved_of_map {keyType valueType valueName : String}
    (h : field.kind = .map keyType valueType valueName)
    (hvalue : service.Resolves valueType valueName) : field.Resolved service := by
  simpa only [Resolved, h] using hvalue

theorem resolved_of_reference {name : String} {repeated : Bool}
    (h : field.kind = .reference name repeated)
    (htag : field.type = FieldType.message.tag ∨ field.type = FieldType.enum.tag)
    (hname : service.Resolves field.type name) : field.Resolved service := by
  simpa only [Resolved, h] using And.intro htag hname

end Field

end Record

namespace Flattening.Sound

variable {c : Context} {service : Service} {s : State} {field subject : Field}

/-- Assumes: no message is being walked, and a linked subject that is no text and whose type is
named. -/
theorem resolves (h : Sound c service s) (hidle : s.stack = [])
    (hlinked : c.schema.FieldLinked subject)
    (hnamed : ∀ type, c.schema.referent? subject = some type → type.isTimestamp = false →
      (s.given.lookup type.fullName).isSome) (htext : c.schema.isText subject = false) :
    (s.result service).service.Resolves subject.type.tag
      (c.schema.referentName s.given subject) := by
  have hshown {type : NamedType} (hreferent : c.schema.referent? subject = some type) :
      (type.fullName, c.schema.referentName s.given subject) ∈ s.given := by
    have hvisible : type.isTimestamp = false := by simpa [Schema.isText, hreferent] using htext
    have hgiven := h.tabled.mem_given (hnamed type hreferent hvisible)
    simpa [Schema.referentName, hreferent] using hgiven
  unfold Schema.FieldLinked at hlinked
  split at hlinked
  · next htype =>
    obtain ⟨message, hlink, howner⟩ := hlinked
    have hreferent : c.schema.referent? subject = some (.message message) := by
      simp [Schema.referent?, hlink, howner]
    have hrecord := h.mem_names_messages hidle (hshown hreferent) howner
    rw [htype]
    refine ⟨fun _ ↦ List.mem_map.mp hrecord, fun htag ↦ ?_, fun hne ↦ absurd rfl hne⟩
    cases FieldType.tag_injective htag
  · next htype =>
    obtain ⟨enum, hlink, howner⟩ := hlinked
    have hreferent : c.schema.referent? subject = some (.enum enum) := by
      simp [Schema.referent?, hlink, howner]
    have hrecord := h.mem_names_enums (hshown hreferent) howner
    rw [htype]
    refine ⟨fun htag ↦ ?_, fun _ ↦ List.mem_map.mp hrecord, fun _ hne ↦ absurd rfl hne⟩
    cases FieldType.tag_injective htag
  · next hmessage henum =>
    have hname : c.schema.referentName s.given subject = "" := by
      simp [Schema.referentName, Schema.referent?, hlinked]
    refine ⟨fun htag ↦ ?_, fun htag ↦ ?_, fun _ _ ↦ hname⟩
    · exact absurd (FieldType.tag_injective htag) hmessage
    · exact absurd (FieldType.tag_injective htag) henum

/-- Assumes: no message is being walked, and a field whose subject is linked and refers to a named
type. -/
theorem resolved_flatField (h : Sound c service s) (hidle : s.stack = [])
    (hnamed : FieldNamed c.schema s.given field)
    (hlinked : ∀ subject, c.schema.subject? field = some subject → c.schema.FieldLinked subject) :
    (c.schema.flatField s.given field).Resolved (s.result service).service := by
  obtain ⟨subject, hsubject⟩ := Option.isSome_iff_exists.mp hnamed.subject
  have hresolves : c.schema.isText subject = false →
      (s.result service).service.Resolves subject.type.tag
        (c.schema.referentName s.given subject) :=
    h.resolves hidle (hlinked subject hsubject) fun type ↦ hnamed.named subject type hsubject
  rcases Schema.subject?_eq_some hsubject with ⟨key, hentry⟩ | ⟨hentry, rfl⟩
  · cases htext : c.schema.isText subject with
    | true =>
      exact Record.Field.resolved_of_map (Schema.kind_flatField_map_text hentry htext) (.string _)
    | false =>
      exact Record.Field.resolved_of_map (Schema.kind_flatField_map hentry (by simp [htext]))
        (hresolves htext)
  · cases hreferent : c.schema.referent? subject with
    | none =>
      exact Record.Field.resolved_of_scalar (Schema.kind_flatField_scalar hentry hreferent)
    | some type =>
      have hsome : (c.schema.referent? subject).isSome := by simp [hreferent]
      cases htext : c.schema.isText subject with
      | true =>
        exact Record.Field.resolved_of_scalar (Schema.kind_flatField_text hentry htext)
      | false =>
        have hshown : ¬c.schema.isText subject := by simp [htext]
        refine Record.Field.resolved_of_reference
          (Schema.kind_flatField_reference hentry hshown hsome) ?_ ?_
        · rw [Schema.type_flatField hsubject hshown]
          have htype := (hlinked subject hsubject).isSome_referent?_iff.mp hsome
          exact htype.imp (congrArg _) (congrArg _)
        · rw [Schema.type_flatField hsubject hshown]
          exact hresolves htext

end Flattening.Sound

/-- Assumes: a linked descriptor set, a service of one of its files, and a result of flattening it.
Every field of every record refers to a record of the service, or to none. -/
theorem flatten_resolved {set : List Descriptor.File} {schema : Schema} {file : File}
    {service : Service} {strict : Bool} {result : Result} (hlink : Schema.link set = .ok schema)
    (hfile : file ∈ schema.files) (hservice : service ∈ file.services)
    (hresult : flatten schema strict service = .ok result) :
    ∀ record ∈ result.service.messages, ∀ field ∈ record.fields, field.Resolved result.service := by
  obtain ⟨s, -, rfl, hidle, hsound⟩ := exists_sound_of_flatten hlink hfile hservice hresult
  intro record hrecord field hfield
  obtain ⟨message, hfirst, hnamed, rfl⟩ := hsound.exists_flatMessage hrecord
  obtain ⟨fullName, -, hmessage⟩ := mem_of_firstGiven? hfirst
  have hdeclared := Schema.mem_types_of_owner? (Schema.message?_eq_some_iff.mp hmessage)
  obtain ⟨declared, hmem, rfl⟩ := List.mem_map.mp hfield
  exact hsound.resolved_flatField hidle (hnamed declared hmem) fun subject hsubject ↦
    (Schema.linked_of_link hlink).subject hdeclared hmem hsubject

theorem Shop.flat_resolved :
    Record.Field.Resolved flat ⟨"lines", "TYPE_MESSAGE", .reference "Order_Line" true, ""⟩ ∧
      Record.Field.Resolved flat ⟨"status", "TYPE_ENUM", .reference "Order_Status" false, ""⟩ := by
  have hresolved := flatten_resolved link_eq file_mem service_mem (flatten_eq false)
  have horder := hresolved _ (List.mem_cons_of_mem _ List.mem_cons_self)
  exact ⟨horder _ List.mem_cons_self, horder _ (List.mem_cons_of_mem _ List.mem_cons_self)⟩

end ClientGen
