import ClientGen.Flattening
import ClientGen.Proofs.Linking

/-!
# What fields refer to

A field counts by its subject: a map field by the value field of its entry, any other field by
itself (`Schema.subject?`). The subject refers to a declared type, or to none
(`Schema.referent?`). `Schema.Reachable` is the least set of types that holds the inputs and outputs
of the usable methods of a service and, with a message, the types that its fields refer to, except
messages that stand for a timestamp.
-/

set_option autoImplicit false
set_option relaxedAutoImplicit false

namespace ClientGen

open Declaration

/-- Whether a type is a message that stands for a timestamp. -/
def Declaration.NamedType.isTimestamp : NamedType → Bool
  | message declaration => declaration.name = Flattening.timestampName
  | enum _ => false

/-- The route of a method that streams in neither direction. -/
def Declaration.Method.route? (method : Method) : Option Route :=
  if method.clientStreaming || method.serverStreaming then none else Route.ofRule? method.rule

namespace Schema

variable {schema : Schema}

/-- The key field and the value field of a map field. -/
def entry? (schema : Schema) (field : Field) : Option (Field × Field) :=
  match (schema.mapEntry? field).map Message.fields with
  | some (key :: value :: _) => some (key, value)
  | _ => none

/-- The field by whose type a field counts; a map whose entry lacks a value field has none. -/
def subject? (schema : Schema) (field : Field) : Option Field :=
  if (schema.mapEntry? field).isSome then (schema.entry? field).map Prod.snd else some field

/-- The declared type that a field refers to. -/
def referent? (schema : Schema) (field : Field) : Option NamedType :=
  match field.link with
  | .scalar => none
  | .message fullName => (schema.message? fullName).map .message
  | .enum fullName => (schema.enum? fullName).map .enum

/-- The messages that the usable methods of a service name. -/
inductive Root (schema : Schema) (service : Service) : Message → Prop
  | input {method : Method} {message : Message} (mem : method ∈ service.methods)
      (usable : method.route?.isSome) (owner : schema.message? method.input = some message) :
      Root schema service message
  | output {method : Method} {message : Message} (mem : method ∈ service.methods)
      (usable : method.route?.isSome) (owner : schema.message? method.output = some message) :
      Root schema service message

/-- The types that a service reaches. -/
inductive Reachable (schema : Schema) (service : Service) : NamedType → Prop
  | root {message : Message} (root : schema.Root service message) :
      Reachable schema service (.message message)
  | field {message : Message} {field subject : Field} {type : NamedType}
      (reachable : Reachable schema service (.message message)) (mem : field ∈ message.fields)
      (subject_eq : schema.subject? field = some subject)
      (referent_eq : schema.referent? subject = some type) (shown : type.isTimestamp = false) :
      Reachable schema service type

/-! ### Referents are owners -/

theorem owner?_of_referent? {field : Field} {type : NamedType}
    (h : schema.referent? field = some type) : schema.owner? type.fullName = some type := by
  unfold referent? at h
  split at h
  · cases h
  · obtain ⟨message, hmessage, rfl⟩ := Option.map_eq_some_iff.mp h
    obtain rfl := fullName_of_message? hmessage
    exact message?_eq_some_iff.mp hmessage
  · obtain ⟨enum, henum, rfl⟩ := Option.map_eq_some_iff.mp h
    obtain rfl := fullName_of_enum? henum
    exact enum?_eq_some_iff.mp henum

theorem Root.owner? {service : Service} {message : Message} (h : schema.Root service message) :
    schema.owner? message.fullName = some (.message message) := by
  cases h with
  | input _ _ howner =>
    rw [fullName_of_message? howner]
    exact message?_eq_some_iff.mp howner
  | output _ _ howner =>
    rw [fullName_of_message? howner]
    exact message?_eq_some_iff.mp howner

theorem Reachable.owner? {service : Service} {type : NamedType}
    (h : schema.Reachable service type) : schema.owner? type.fullName = some type := by
  cases h with
  | root hroot => exact hroot.owner?
  | field _ _ _ hreferent _ => exact owner?_of_referent? hreferent

/-- The linked fields that refer to a type are those of a message or enum type. -/
theorem FieldLinked.isSome_referent?_iff {field : Field} (h : schema.FieldLinked field) :
    (schema.referent? field).isSome ↔ field.type = .message ∨ field.type = .enum := by
  unfold FieldLinked at h
  unfold Schema.referent?
  split at h
  · next htype =>
    obtain ⟨message, hlink, howner⟩ := h
    simp [hlink, howner, htype]
  · next htype =>
    obtain ⟨enum, hlink, howner⟩ := h
    simp [hlink, howner, htype]
  · next hmessage henum => simpa [h] using ⟨hmessage, henum⟩

/-- The fields of the entry of a map field are fields of a declared message. -/
theorem exists_message_of_entry? {field key value : Field}
    (h : schema.entry? field = some (key, value)) :
    ∃ message, .message message ∈ schema.types ∧ key ∈ message.fields ∧
      value ∈ message.fields := by
  unfold entry? at h
  split at h
  · next key' value' rest hentry =>
    cases h
    obtain ⟨message, hmessage, hfields⟩ := Option.map_eq_some_iff.mp hentry
    unfold mapEntry? fieldMessage? at hmessage
    split_ifs at hmessage
    obtain ⟨hmessage, -⟩ := Option.filter_eq_some_iff.mp hmessage
    split at hmessage
    · refine ⟨message, mem_types_of_owner? (message?_eq_some_iff.mp hmessage), ?_⟩
      simp [hfields]
    · cases hmessage
  · cases h

/-- The subject of a field counts as linked like the field itself. -/
theorem Linked.subject (h : schema.Linked) {message : Message} {field subject : Field}
    (hmessage : .message message ∈ schema.types) (hfield : field ∈ message.fields)
    (hsubject : schema.subject? field = some subject) : schema.FieldLinked subject := by
  unfold subject? at hsubject
  split_ifs at hsubject
  · obtain ⟨⟨key, value⟩, hentry, rfl⟩ := Option.map_eq_some_iff.mp hsubject
    obtain ⟨entry, hentryMem, -, hvalue⟩ := exists_message_of_entry? hentry
    exact h.field entry hentryMem value hvalue
  · cases hsubject
    exact h.field message hmessage field hfield

end Schema

end ClientGen
