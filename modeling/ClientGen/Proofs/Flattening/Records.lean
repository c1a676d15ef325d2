import ClientGen.Proofs.Flattening.Table

/-!
# Faithful records

What a record says follows from the declaration it is made for and from the table of flat names
alone: `Schema.flatField` is the record of a field under a table, `Schema.flatMessage` that of a
message. `Recorded` is the invariant behind this. Each record, and each frame as far as it is
walked, belongs to the first message that was given its name, its fields are those of the table as
it stands, and the types they refer to are all named. Since the table only grows, what was recorded
stays right. Records and frames together have the names that messages own, each once.
-/

set_option autoImplicit false
set_option relaxedAutoImplicit false

namespace ClientGen

open Declaration Flattening Relation

namespace Schema

variable {schema : Schema} {given : List (String × String)} {field subject : Field}

/-- Whether a field refers to the message that stands for a timestamp, and so is a text. -/
def isText (schema : Schema) (field : Field) : Bool :=
  (schema.referent? field).any NamedType.isTimestamp

/-- The flat name of the type a field refers to; it is empty if there is none. -/
def referentName (schema : Schema) (given : List (String × String)) (field : Field) : String :=
  ((schema.referent? field).bind fun type ↦ given.lookup type.fullName).getD ""

/-- What a field holds, under a table of flat names. -/
def flatKind (schema : Schema) (given : List (String × String)) (field : Field) : Record.Kind :=
  match schema.entry? field with
  | some (key, value) =>
    if schema.isText value then .map key.type.tag FieldType.string.tag ""
    else .map key.type.tag value.type.tag (schema.referentName given value)
  | none =>
    if schema.isText field then .scalar FieldType.string.tag field.repeated
    else if (schema.referent? field).isSome then
      .reference (schema.referentName given field) field.repeated
    else .scalar field.type.tag field.repeated

/-- The record of a field, under a table of flat names. -/
def flatField (schema : Schema) (given : List (String × String)) (field : Field) :
    Record.Field where
  name := field.jsonName
  type := if (schema.subject? field).any schema.isText then FieldType.string.tag else field.type.tag
  kind := schema.flatKind given field
  comment := field.comment

/-- The record of a message, under a table of flat names. -/
def flatMessage (schema : Schema) (given : List (String × String)) (message : Message) :
    Record.Message where
  name := (given.lookup message.fullName).getD ""
  comment := message.comment
  fields := message.fields.map (schema.flatField given)

/-- The record of an enum, under a table of flat names. -/
def flatEnum (given : List (String × String)) (enum : Enum) : Record.Enum :=
  enumRecord ((given.lookup enum.fullName).getD "") enum

/-- The subject of a map field is the value field of its entry; any other field is its own. -/
theorem subject?_eq_some (h : schema.subject? field = some subject) :
    (∃ key, schema.entry? field = some (key, subject)) ∨
      schema.entry? field = none ∧ subject = field := by
  unfold subject? at h
  split_ifs at h with hmap
  · obtain ⟨⟨key, value⟩, hentry, rfl⟩ := Option.map_eq_some_iff.mp h
    exact .inl ⟨key, hentry⟩
  · cases h
    refine .inr ⟨?_, rfl⟩
    unfold entry?
    rw [Option.not_isSome_iff_eq_none.mp hmap]
    rfl

section Kinds

variable {key value : Field}

theorem kind_flatField_map_text (hentry : schema.entry? field = some (key, value))
    (htext : schema.isText value) :
    (schema.flatField given field).kind = .map key.type.tag FieldType.string.tag "" := by
  simp [flatField, flatKind, hentry, htext]

theorem kind_flatField_map (hentry : schema.entry? field = some (key, value))
    (htext : ¬schema.isText value) :
    (schema.flatField given field).kind =
      .map key.type.tag value.type.tag (schema.referentName given value) := by
  simp [flatField, flatKind, hentry, htext]

theorem kind_flatField_text (hentry : schema.entry? field = none) (htext : schema.isText field) :
    (schema.flatField given field).kind = .scalar FieldType.string.tag field.repeated := by
  simp [flatField, flatKind, hentry, htext]

theorem kind_flatField_reference (hentry : schema.entry? field = none)
    (htext : ¬schema.isText field) (hreferent : (schema.referent? field).isSome) :
    (schema.flatField given field).kind =
      .reference (schema.referentName given field) field.repeated := by
  simp [flatField, flatKind, hentry, htext, hreferent]

theorem kind_flatField_scalar (hentry : schema.entry? field = none)
    (hreferent : schema.referent? field = none) :
    (schema.flatField given field).kind = .scalar field.type.tag field.repeated := by
  simp [flatField, flatKind, isText, hentry, hreferent]

theorem type_flatField_text (hsubject : schema.subject? field = some subject)
    (htext : schema.isText subject) :
    (schema.flatField given field).type = FieldType.string.tag := by
  simp [flatField, hsubject, htext]

theorem type_flatField (hsubject : schema.subject? field = some subject)
    (htext : ¬schema.isText subject) : (schema.flatField given field).type = field.type.tag := by
  simp [flatField, hsubject, htext]

end Kinds

/-- Tables that agree on the type a field refers to give it the same record. -/
theorem flatField_congr {given' : List (String × String)}
    (hsubject : schema.subject? field = some subject)
    (hsame : schema.isText subject = false →
      schema.referentName given subject = schema.referentName given' subject) :
    schema.flatField given field = schema.flatField given' field := by
  have hkind : schema.flatKind given field = schema.flatKind given' field := by
    unfold flatKind
    rcases subject?_eq_some hsubject with ⟨key, hentry⟩ | ⟨hentry, rfl⟩
    · simp only [hentry]
      cases htext : schema.isText subject with
      | true => rfl
      | false => simp only [hsame htext]
    · simp only [hentry]
      cases htext : schema.isText subject with
      | true => rfl
      | false => simp only [hsame htext]
  simp only [flatField, hkind]

end Schema

namespace Flattening

/-- A field has a subject, and the type its subject refers to has a name in the table, unless the
field is a text. -/
structure FieldNamed (schema : Schema) (given : List (String × String)) (field : Field) : Prop where
  subject : (schema.subject? field).isSome
  named : ∀ subject type, schema.subject? field = some subject →
    schema.referent? subject = some type → type.isTimestamp = false →
      (given.lookup type.fullName).isSome

/-- A field was walked: what it refers to is named, and its record is that of the table. -/
structure FieldWalked (schema : Schema) (given : List (String × String)) (field : Field)
    (record : Record.Field) : Prop extends FieldNamed schema given field where
  record_eq : record = schema.flatField given field

/-- A frame belongs to the first message that was given its name, and its fields were walked as far
as they are done. -/
def Frame.Faithful (schema : Schema) (given : List (String × String)) (frame : Frame) : Prop :=
  ∃ message walked, firstGiven? schema.message? given frame.name = some message ∧
    frame.comment = message.comment ∧ message.fields = walked ++ frame.pending ∧
    List.Forall₂ (FieldWalked schema given) walked frame.done

/-- The frame of a message whose record is finished. -/
def Frame.finished (record : Record.Message) : Frame :=
  ⟨record.name, record.comment, record.fields, []⟩

/-- The records and the frames of a run are faithful, and have the names that are owned. -/
structure Recorded (schema : Schema) (s : State) : Prop where
  names : (s.messages.map Record.Message.name ++ s.stack.map Frame.name).Perm
    (s.visits.map Visit.name)
  messages : ∀ record ∈ s.messages, (Frame.finished record).Faithful schema s.given
  frames : ∀ frame ∈ s.stack, frame.Faithful schema s.given
  enums : List.Forall₂ (fun owner record ↦ ∃ enum, schema.enum? owner.2 = some enum ∧
    record = enumRecord owner.1 enum) s.enumOwners s.enums

section Growth

variable {schema : Schema} {given given' : List (String × String)}

/-- Assumes: the table has a name for the type that the subject refers to. A longer table gives it
the same name. -/
theorem referentName_of_grows (hgrows : given <+: given') {subject : Field}
    (hnamed : ∀ type, schema.referent? subject = some type → type.isTimestamp = false →
      (given.lookup type.fullName).isSome) (htext : schema.isText subject = false) :
    schema.referentName given subject = schema.referentName given' subject := by
  unfold Schema.referentName
  cases hreferent : schema.referent? subject with
  | none => rfl
  | some type =>
    have hshown : type.isTimestamp = false := by simpa [Schema.isText, hreferent] using htext
    obtain ⟨name, hname⟩ := Option.isSome_iff_exists.mp (hnamed type hreferent hshown)
    simp [hname, lookup_of_grows hgrows hname]

/-- What was walked stays right as the table grows. -/
theorem FieldWalked.of_grows (hgrows : given <+: given') {field : Field}
    {record : Record.Field} (h : FieldWalked schema given field record) :
    FieldWalked schema given' field record where
  subject := h.subject
  named := by
    intro subject type hsubject hreferent hshown
    obtain ⟨name, hname⟩ :=
      Option.isSome_iff_exists.mp (h.named subject type hsubject hreferent hshown)
    simp [lookup_of_grows hgrows hname]
  record_eq := by
    obtain ⟨subject, hsubject⟩ := Option.isSome_iff_exists.mp h.subject
    rw [h.record_eq]
    exact Schema.flatField_congr hsubject
      (referentName_of_grows hgrows fun type ↦ h.named subject type hsubject)

theorem Frame.Faithful.of_grows (hgrows : given <+: given') {frame : Frame}
    (h : frame.Faithful schema given) : frame.Faithful schema given' := by
  obtain ⟨message, walked, hfirst, hcomment, hfields, hwalked⟩ := h
  exact ⟨message, walked, firstGiven?_of_grows hgrows hfirst, hcomment, hfields,
    hwalked.imp fun _ _ ↦ .of_grows hgrows⟩

end Growth

/-! ### What naming and walking record -/

section Steps

variable {c : Context} {s t : State} {type : NamedType} {name : String} {frame : Option Frame}

theorem Naming.messages_eq {around : Option String} (h : Naming c s type around name frame t) :
    t.messages = s.messages := by
  cases h <;> rfl

theorem Naming.stack_eq {around : Option String} (h : Naming c s type around name frame t) :
    t.stack = s.stack := by
  cases h <;> rfl

/-- A message takes over a name just when its walk begins. -/
theorem Naming.map_name_visits {around : Option String}
    (h : Naming c s type around name frame t) :
    t.visits.map Visit.name = s.visits.map Visit.name ++ frame.toList.map Frame.name := by
  cases h with
  | message => simp [State.ownMessage, Frame.start]
  | known => simp
  | sharedMessage => simp [State.share]
  | enum => simp [State.ownEnum]
  | sharedEnum => simp [State.share]

/-- The frame of a walk that begins belongs to the message that was reached. -/
theorem Naming.faithful {around : Option String} {start : Frame}
    (h : Naming c s type around name (some start) t) (htabled : Tabled c.schema t)
    (howner : c.schema.owner? type.fullName = some type) :
    start.Faithful c.schema t.given := by
  cases h with
  | @message message =>
    have hmessage : c.schema.message? message.fullName = some message :=
      Schema.message?_eq_some_iff.mpr howner
    obtain ⟨first, hfound, hfirst⟩ := htabled.messages.first
      (flatName message.name message.parent around) message.fullName
      (by simp [State.messageOwners, State.ownMessage])
    rw [hmessage] at hfound
    cases hfound
    exact ⟨message, [], hfirst, rfl, rfl, .nil⟩

theorem Recorded.naming {around : Option String} (h : Recorded c.schema s)
    (hnaming : Naming c s type around name frame t) (htabled : Tabled c.schema t)
    (howner : c.schema.owner? type.fullName = some type) :
    Recorded c.schema { t with stack := frame.toList ++ t.stack } where
  names := by
    rw [hnaming.messages_eq, hnaming.stack_eq, hnaming.map_name_visits, List.map_append]
    refine (List.perm_append_comm_assoc _ _ _).trans ?_
    exact List.perm_append_comm.trans (h.names.append_right _)
  messages := by
    rw [hnaming.messages_eq]
    exact fun record hrecord ↦ (h.messages record hrecord).of_grows hnaming.given_grows
  frames := by
    intro other hother
    rcases List.mem_append.mp hother with hother | hother
    · obtain rfl := Option.mem_toList.mp hother
      exact hnaming.faithful htabled howner
    · rw [hnaming.stack_eq] at hother
      exact (h.frames other hother).of_grows hnaming.given_grows
  enums := by
    cases hnaming with
    | @enum enum _ _ _ =>
      refine List.rel_append h.enums (.cons ⟨enum, ?_, rfl⟩ .nil)
      exact Schema.enum?_eq_some_iff.mpr howner
    | known => exact h.enums
    | message => exact h.enums
    | sharedMessage => exact h.enums
    | sharedEnum => exact h.enums

/-- The record of a walked field is that of the table after the walk. -/
theorem Targeting.fieldWalked {field subject : Field} {around : String} {target : Target}
    (h : Targeting c s subject around target frame t)
    (hsubject : c.schema.subject? field = some subject) :
    FieldWalked c.schema t.given field
      (fieldRecord field (c.schema.entry? field) target) where
  subject := by simp [hsubject]
  named := by
    intro other type hother hreferent hshown
    rw [hsubject] at hother
    cases hother
    cases h with
    | scalar hnone =>
      rw [hnone] at hreferent
      cases hreferent
    | timestamp htype hhidden =>
      rw [htype] at hreferent
      cases hreferent
      rw [hhidden] at hshown
      cases hshown
    | named htype _ hnaming =>
      rw [htype] at hreferent
      cases hreferent
      exact Option.isSome_iff_exists.mpr ⟨_, hnaming.flatName?_eq⟩
  record_eq := by
    unfold Schema.flatField Schema.flatKind
    rw [hsubject]
    cases h with
    | scalar hnone =>
      have htext : c.schema.isText subject = false := by simp [Schema.isText, hnone]
      have hname : c.schema.referentName s.given subject = "" := by
        simp [Schema.referentName, hnone]
      rcases Schema.subject?_eq_some hsubject with ⟨key, hentry⟩ | ⟨hentry, rfl⟩
      · simp [fieldRecord, hentry, htext, hname]
      · simp [fieldRecord, hentry, htext, hnone]
    | timestamp htype hhidden =>
      have htext : c.schema.isText subject = true := by simp [Schema.isText, htype, hhidden]
      rcases Schema.subject?_eq_some hsubject with ⟨key, hentry⟩ | ⟨hentry, rfl⟩
      · simp [fieldRecord, hentry, htext]
      · simp [fieldRecord, hentry, htext]
    | @named type name _ _ htype hshown hnaming =>
      have htext : c.schema.isText subject = false := by simp [Schema.isText, htype, hshown]
      have hlookup : t.given.lookup type.fullName = some name := hnaming.flatName?_eq
      have hname : c.schema.referentName t.given subject = name := by
        simp [Schema.referentName, htype, hlookup]
      rcases Schema.subject?_eq_some hsubject with ⟨key, hentry⟩ | ⟨hentry, rfl⟩
      · simp [fieldRecord, hentry, htext, hname]
      · simp [fieldRecord, hentry, htext, hname, htype]

end Steps

end Flattening

end ClientGen
