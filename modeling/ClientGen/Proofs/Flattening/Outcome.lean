import ClientGen.Proofs.Flattening.Invariant

/-!
# What a run leaves

Facts about the state in which a run ends, when no message is being walked any more. Each record is
the record, under the final table, of the first declaration that was given its name
(`exists_flatMessage`, `exists_flatEnum`), the names of the records are distinct, and every type in
the table has a record under its name (`mem_names_messages`, `mem_names_enums`).
-/

set_option autoImplicit false
set_option relaxedAutoImplicit false

namespace ClientGen.Flattening

open Declaration

/-- What a field refers to is settled: it shows in the tag of its subject, and has a name in the
table unless the field is a text. -/
structure FieldSettled (schema : Schema) (given : List (String × String)) (field : Field) :
    Prop extends FieldNamed schema given field where
  tagged : ∀ subject, schema.subject? field = some subject →
    ((schema.referent? subject).isSome ↔ subject.type = .message ∨ subject.type = .enum)

/-- Assumes: a linked schema. The subjects of its fields are linked. -/
theorem FieldNamed.settled {schema : Schema} {given : List (String × String)} {field : Field}
    (h : FieldNamed schema given field) (hlinked : schema.Linked) {message : Message}
    (hmessage : .message message ∈ schema.types) (hfield : field ∈ message.fields) :
    FieldSettled schema given field where
  subject := h.subject
  named := h.named
  tagged := by
    intro subject hsubject
    exact (hlinked.subject hmessage hfield hsubject).isSome_referent?_iff

/-- Assumes: the full names of a table are distinct. A finished record is that of the first message
that was given its name. -/
theorem Frame.Faithful.exists_flatMessage {schema : Schema} {given : List (String × String)}
    {record : Record.Message} (h : (Frame.finished record).Faithful schema given)
    (hnodup : (given.map Prod.fst).Nodup) :
    ∃ message, firstGiven? schema.message? given record.name = some message ∧
      (∀ field ∈ message.fields, FieldNamed schema given field) ∧
      record = schema.flatMessage given message := by
  obtain ⟨message, walked, hfirst, hcomment, hfields, hwalked⟩ := h
  have hall : List.Forall₂ (FieldWalked schema given) message.fields record.fields := by
    rw [hfields]
    simpa [Frame.finished] using hwalked
  refine ⟨message, hfirst, ?_, ?_⟩
  · intro field hfield
    have hflip : List.Forall₂ (flip (FieldWalked schema given)) record.fields message.fields :=
      hall.flip
    obtain ⟨walkedRecord, -, hnamed⟩ := exists_mem_of_forall₂ hflip hfield
    exact FieldWalked.toFieldNamed hnamed
  · obtain ⟨fullName, hmem, hmessage⟩ := mem_of_firstGiven? hfirst
    obtain rfl := Schema.fullName_of_message? hmessage
    have hname : given.lookup message.fullName = some record.name :=
      (lookup_eq_some_iff_mem hnodup).mpr hmem
    have hrecords : message.fields.map (schema.flatField given) = record.fields := by
      have hmap := map_eq_map_of_forall₂ hall fun field record hfield ↦ hfield.record_eq.symm
      rwa [List.map_id'] at hmap
    unfold Schema.flatMessage
    rw [hname, Option.getD_some, hrecords, ← hcomment]
    rfl

namespace Sound

variable {c : Context} {service : Service} {s : State}

theorem exists_flatMessage (h : Sound c service s) {record : Record.Message}
    (hrecord : record ∈ s.messages) :
    ∃ message, firstGiven? c.schema.message? s.given record.name = some message ∧
      (∀ field ∈ message.fields, FieldNamed c.schema s.given field) ∧
      record = c.schema.flatMessage s.given message :=
  (h.recorded.messages record hrecord).exists_flatMessage h.tabled.fullNames

theorem exists_flatEnum (h : Sound c service s) {record : Record.Enum}
    (hrecord : record ∈ s.enums) :
    ∃ enum, firstGiven? c.schema.enum? s.given record.name = some enum ∧
      record = Schema.flatEnum s.given enum := by
  obtain ⟨⟨name, fullName⟩, howner, enum, henum, rfl⟩ :=
    exists_mem_of_forall₂ h.recorded.enums hrecord
  obtain ⟨first, hfound, hfirst⟩ := h.tabled.enums.first name fullName howner
  rw [henum] at hfound
  cases hfound
  obtain ⟨other, hmem, hother⟩ := mem_of_firstGiven? hfirst
  obtain rfl := Schema.fullName_of_enum? hother
  refine ⟨enum, hfirst, ?_⟩
  have hname : s.given.lookup enum.fullName = some name := h.tabled.flatName?_eq_some_iff.mpr hmem
  rw [Schema.flatEnum, hname, Option.getD_some]

/-! ### Every named type has a record -/

/-- Assumes: no message is being walked. The records of messages have the names that are owned. -/
theorem map_name_messages_perm (h : Sound c service s) (hidle : s.stack = []) :
    (s.messages.map Record.Message.name).Perm (s.messageOwners.map Prod.fst) := by
  have hnames := h.recorded.names
  rw [hidle, List.map_nil, List.append_nil] at hnames
  rwa [State.map_fst_messageOwners]

theorem map_name_enums (h : Sound c service s) :
    s.enums.map Record.Enum.name = s.enumOwners.map Prod.fst := by
  refine (map_eq_map_of_forall₂ h.recorded.enums ?_).symm
  rintro owner record ⟨enum, -, rfl⟩
  rfl

theorem nodup_names_messages (h : Sound c service s) (hidle : s.stack = []) :
    (s.messages.map Record.Message.name).Nodup :=
  (h.map_name_messages_perm hidle).nodup_iff.mpr h.tabled.messages.nodup

theorem nodup_names_enums (h : Sound c service s) : (s.enums.map Record.Enum.name).Nodup := by
  rw [h.map_name_enums]
  exact h.tabled.enums.nodup

/-- Assumes: no message is being walked. A message in the table has a record under its name. -/
theorem mem_names_messages (h : Sound c service s) (hidle : s.stack = []) {message : Message}
    {name : String} (hgiven : (message.fullName, name) ∈ s.given)
    (howner : c.schema.message? message.fullName = some message) :
    name ∈ s.messages.map Record.Message.name := by
  rw [(h.map_name_messages_perm hidle).mem_iff]
  exact h.tabled.messages.covers _ _ hgiven (by simp [howner])

/-- An enum in the table has a record under its name. -/
theorem mem_names_enums (h : Sound c service s) {enum : Enum} {name : String}
    (hgiven : (enum.fullName, name) ∈ s.given)
    (howner : c.schema.enum? enum.fullName = some enum) :
    name ∈ s.enums.map Record.Enum.name := by
  rw [h.map_name_enums]
  exact h.tabled.enums.covers _ _ hgiven (by simp [howner])

end Sound

end ClientGen.Flattening
