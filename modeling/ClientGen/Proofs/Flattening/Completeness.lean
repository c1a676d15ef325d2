import ClientGen.Proofs.Flattening.Faithfulness

/-!
# Every reachable type has one record

The records of a run stem from types that the service reaches, under names that are distinct for
each kind. In a strict run nothing is lost either: the methods name the roots
(`Runs.isSome_flatName?`), a message that has a name has a record, which names all that its fields
refer to, and by induction on reachability every reachable type is named
(`isSome_flatName?_of_reachable`). Since a strict run gives each name once, types and records
correspond one to one.
-/

set_option autoImplicit false
set_option relaxedAutoImplicit false

namespace ClientGen

open Declaration Flattening

/-- The images of the elements that satisfy a property, each once, are the images of a list of
them. -/
theorem exists_nodup_map_eq {α β : Type} {f : α → β} {P : α → Prop} {l : List β} (hnodup : l.Nodup)
    (hstem : ∀ b ∈ l, ∃ a, P a ∧ b = f a) (hmem : ∀ a, P a → f a ∈ l)
    (hinj : ∀ a b, P a → P b → f a = f b → a = b) :
    ∃ as : List α, as.Nodup ∧ (∀ a, a ∈ as ↔ P a) ∧ l = as.map f := by
  have hlist : ∀ l : List β, (∀ b ∈ l, ∃ a, P a ∧ b = f a) →
      ∃ as : List α, (∀ a ∈ as, P a) ∧ l = as.map f := by
    intro l
    induction l with
    | nil => exact fun _ ↦ ⟨[], by simp, rfl⟩
    | cons b rest ih =>
      intro hstem
      obtain ⟨a, ha, rfl⟩ := hstem b List.mem_cons_self
      obtain ⟨as, has, rfl⟩ := ih fun c hc ↦ hstem c (List.mem_cons_of_mem _ hc)
      exact ⟨a :: as, by simpa using ⟨ha, has⟩, rfl⟩
  obtain ⟨as, has, rfl⟩ := hlist l hstem
  refine ⟨as, hnodup.of_map, fun a ↦ ⟨has a, fun ha ↦ ?_⟩, rfl⟩
  obtain ⟨b, hb, heq⟩ := List.mem_map.mp (hmem a ha)
  rwa [← hinj b a (has b hb) ha heq]

namespace Flattening

/-! ### Every reachable type is named -/

namespace Sound

variable {c : Context} {service : Service} {s : State}

/-- Assumes: no message is being walked, no name was given twice, and the roots of the service are
named. -/
theorem isSome_flatName?_of_reachable (h : Sound c service s) (hidle : s.stack = [])
    (hdistinct : Distinct s)
    (hroots : ∀ message, c.schema.Root service message → (s.flatName? message.fullName).isSome)
    {type : NamedType} (hreachable : c.schema.Reachable service type) :
    (s.flatName? type.fullName).isSome := by
  induction hreachable with
  | root hroot => exact hroots _ hroot
  | @field message field subject type hmessage hfield hsubject hreferent hshown ih =>
    obtain ⟨name, hname⟩ := Option.isSome_iff_exists.mp ih
    have hgiven := h.tabled.flatName?_eq_some_iff.mp hname
    have howner := Schema.message?_eq_some_iff.mpr hmessage.owner?
    obtain ⟨record, hrecord, rfl⟩ := List.mem_map.mp (h.mem_names_messages hidle hgiven howner)
    obtain ⟨first, hfirst, hnamed, -⟩ := h.exists_flatMessage hrecord
    -- The record under the name of the message is its own, since no other has that name.
    obtain ⟨fullName, hother, hfirst⟩ := mem_of_firstGiven? hfirst
    obtain rfl := hdistinct.eq_of_mem_given hgiven hother
    rw [howner] at hfirst
    cases hfirst
    exact (hnamed field hfield).named subject type hsubject hreferent hshown

/-! ### Records and types correspond -/

/-- Assumes: no name was given twice. Reachable types under one name are equal. -/
theorem eq_of_mem_given (hdistinct : Distinct s) {first second : NamedType}
    (hfirst : c.schema.Reachable service first) (hsecond : c.schema.Reachable service second)
    {name : String} (hfirstGiven : (first.fullName, name) ∈ s.given)
    (hsecondGiven : (second.fullName, name) ∈ s.given) : first = second := by
  have hname := hdistinct.eq_of_mem_given hfirstGiven hsecondGiven
  have howner := hfirst.owner?
  rw [hname, hsecond.owner?] at howner
  exact (Option.some.inj howner).symm

theorem exists_reachable_message (h : Sound c service s) {record : Record.Message}
    (hrecord : record ∈ s.messages) :
    ∃ message, c.schema.Reachable service (.message message) ∧
      (s.flatName? message.fullName).isSome ∧ record = c.schema.flatMessage s.given message := by
  obtain ⟨message, hfirst, -, heq⟩ := h.exists_flatMessage hrecord
  obtain ⟨fullName, hgiven, hmessage⟩ := mem_of_firstGiven? hfirst
  obtain rfl := Schema.fullName_of_message? hmessage
  have hname := h.tabled.flatName?_eq_some_iff.mpr hgiven
  exact ⟨message, h.reachable_of_firstGiven? hfirst, by simp [hname], heq⟩

theorem exists_reachable_enum (h : Sound c service s) {record : Record.Enum}
    (hrecord : record ∈ s.enums) :
    ∃ enum, c.schema.Reachable service (.enum enum) ∧
      (s.flatName? enum.fullName).isSome ∧ record = Schema.flatEnum s.given enum := by
  obtain ⟨enum, hfirst, heq⟩ := h.exists_flatEnum hrecord
  obtain ⟨fullName, hgiven, henum⟩ := mem_of_firstGiven? hfirst
  obtain rfl := Schema.fullName_of_enum? henum
  obtain ⟨type, howner, hreachable⟩ := h.reachable enum.fullName record.name hgiven
  rw [Schema.enum?_eq_some_iff.mp henum] at howner
  cases howner
  have hname := h.tabled.flatName?_eq_some_iff.mpr hgiven
  exact ⟨enum, hreachable, by simp [hname], heq⟩

/-- Assumes: no name was given twice, and every type that the service reaches is named. Records of a
kind that stem from reachable types, under distinct names, and among which each name of a reachable
type occurs, correspond to the reachable types of that kind. -/
theorem exists_types_of_records (h : Sound c service s) (hdistinct : Distinct s)
    (hnamed : ∀ type, c.schema.Reachable service type → (s.flatName? type.fullName).isSome)
    {α β : Type} {type : α → NamedType} (htype : Function.Injective type) {record : α → β}
    {name : β → String} {records : List β}
    (hname : ∀ a, name (record a) = (s.given.lookup (type a).fullName).getD "")
    (hnodup : (records.map name).Nodup)
    (hstem : ∀ r ∈ records, ∃ a, c.schema.Reachable service (type a) ∧
      (s.flatName? (type a).fullName).isSome ∧ r = record a)
    (hmem : ∀ a flat, c.schema.Reachable service (type a) → ((type a).fullName, flat) ∈ s.given →
      flat ∈ records.map name) :
    ∃ as : List α, as.Nodup ∧ (∀ a, a ∈ as ↔ c.schema.Reachable service (type a)) ∧
      records = as.map record := by
  have hgiven (a : α) (ha : (s.flatName? (type a).fullName).isSome) :
      ((type a).fullName, name (record a)) ∈ s.given := by
    rw [hname]
    exact h.tabled.mem_given ha
  have hinj (a b : α) (ha : c.schema.Reachable service (type a))
      (hb : c.schema.Reachable service (type b)) (heq : name (record a) = name (record b)) :
      a = b := by
    have haGiven := hgiven a (hnamed _ ha)
    rw [heq] at haGiven
    exact htype (eq_of_mem_given hdistinct ha hb haGiven (hgiven b (hnamed _ hb)))
  refine exists_nodup_map_eq hnodup.of_map ?_ ?_ ?_
  · intro r hr
    obtain ⟨a, ha, -, heq⟩ := hstem r hr
    exact ⟨a, ha, heq⟩
  · intro a ha
    obtain ⟨r, hr, heq⟩ := List.mem_map.mp (hmem a _ ha (hgiven a (hnamed _ ha)))
    obtain ⟨b, hb, -, rfl⟩ := hstem r hr
    rw [hinj a b ha hb heq.symm]
    exact hr
  · exact fun a b ha hb heq ↦ hinj a b ha hb (congrArg name heq)

end Sound

/-- The records of a service stem, by a table of flat names, from types that the service reaches,
and no two records of a kind share a name. -/
structure Stemming (schema : Schema) (service : Service) (given : List (String × String))
    (flat : Record.Service) : Prop where
  messages : ∀ record ∈ flat.messages, ∃ message, schema.Reachable service (.message message) ∧
    (given.lookup message.fullName).isSome ∧ record = schema.flatMessage given message
  enums : ∀ record ∈ flat.enums, ∃ enum, schema.Reachable service (.enum enum) ∧
    (given.lookup enum.fullName).isSome ∧ record = Schema.flatEnum given enum
  messageNames : (flat.messages.map Record.Message.name).Nodup
  enumNames : (flat.enums.map Record.Enum.name).Nodup

/-- The records of a service are, by a table of flat names, those of the types that the service
reaches, one for each type, and no two of them share a name. -/
structure Complete (schema : Schema) (service : Service) (given : List (String × String))
    (flat : Record.Service) : Prop where
  messages : ∃ messages : List Message, messages.Nodup ∧
    (∀ message, message ∈ messages ↔ schema.Reachable service (.message message)) ∧
    flat.messages = messages.map (schema.flatMessage given)
  enums : ∃ enums : List Enum, enums.Nodup ∧
    (∀ enum, enum ∈ enums ↔ schema.Reachable service (.enum enum)) ∧
    flat.enums = enums.map (Schema.flatEnum given)
  names : (flat.messages.map Record.Message.name ++ flat.enums.map Record.Enum.name).Nodup

namespace Sound

variable {c : Context} {service : Service} {s : State}

theorem stemming (h : Sound c service s) (hidle : s.stack = []) :
    Stemming c.schema service s.given (s.result service).service where
  messages := fun _ ↦ h.exists_reachable_message
  enums := fun _ ↦ h.exists_reachable_enum
  messageNames := h.nodup_names_messages hidle
  enumNames := h.nodup_names_enums

/-- Assumes: no message is being walked, no name was given twice, and every type that the service
reaches is named. -/
theorem complete (h : Sound c service s) (hidle : s.stack = []) (hdistinct : Distinct s)
    (hnamed : ∀ type, c.schema.Reachable service type → (s.flatName? type.fullName).isSome) :
    Complete c.schema service s.given (s.result service).service where
  messages := h.exists_types_of_records hdistinct hnamed (fun _ _ ↦ NamedType.message.inj)
    (fun _ ↦ rfl) (h.nodup_names_messages hidle) (fun _ ↦ h.exists_reachable_message)
    fun _ _ hreachable hgiven ↦ h.mem_names_messages hidle hgiven
      (Schema.message?_eq_some_iff.mpr hreachable.owner?)
  enums := h.exists_types_of_records hdistinct hnamed (fun _ _ ↦ NamedType.enum.inj)
    (fun _ ↦ rfl) h.nodup_names_enums (fun _ ↦ h.exists_reachable_enum)
    fun _ _ hreachable hgiven ↦ h.mem_names_enums hgiven
      (Schema.enum?_eq_some_iff.mpr hreachable.owner?)
  names := by
    refine List.nodup_append.mpr ⟨h.nodup_names_messages hidle, h.nodup_names_enums, ?_⟩
    intro name hmessage other henum heq
    obtain ⟨record, hrecord, rfl⟩ := List.mem_map.mp hmessage
    obtain ⟨enumRecord, henumRecord, rfl⟩ := List.mem_map.mp henum
    obtain ⟨message, hreachMessage, hmessageNamed, rfl⟩ := h.exists_reachable_message hrecord
    obtain ⟨enum, hreachEnum, henumNamed, rfl⟩ := h.exists_reachable_enum henumRecord
    have hgiven : (message.fullName, (c.schema.flatMessage s.given message).name) ∈ s.given :=
      h.tabled.mem_given hmessageNamed
    rw [heq] at hgiven
    cases eq_of_mem_given hdistinct hreachMessage hreachEnum hgiven
      (h.tabled.mem_given henumNamed)

end Sound

end Flattening

/-- Assumes: a linked descriptor set, a service of one of its files, and a result of flattening it.
Every record stems from a type that the service reaches, and in a strict run each such type has one
record. -/
theorem flatten_complete {set : List Descriptor.File} {schema : Schema} {file : File}
    {service : Service} {strict : Bool} {result : Result} (hlink : Schema.link set = .ok schema)
    (hfile : file ∈ schema.files) (hservice : service ∈ file.services)
    (hresult : flatten schema strict service = .ok result) :
    ∃ s, Context.run ⟨schema, service.name, strict⟩ service.methods = .ok s ∧
      s.result service = result ∧ Stemming schema service s.given result.service ∧
      (strict → Complete schema service s.given result.service) := by
  obtain ⟨s, hruns, rfl, hidle, hsound⟩ := exists_sound_of_flatten hlink hfile hservice hresult
  refine ⟨s, hruns.eq_ok, rfl, hsound.stemming hidle, fun hstrict ↦ ?_⟩
  have hroots : ∀ message, schema.Root service message →
      (s.flatName? message.fullName).isSome := by
    intro message hroot
    cases hroot with
    | @input method _ hmethod husable howner =>
      rw [Schema.fullName_of_message? howner]
      exact (hruns.isSome_flatName? method hmethod husable).1
    | @output method _ hmethod husable howner =>
      rw [Schema.fullName_of_message? howner]
      exact (hruns.isSome_flatName? method hmethod husable).2
  have hdistinct := hsound.distinct hstrict
  exact hsound.complete hidle hdistinct fun type hreachable ↦
    hsound.isSome_flatName?_of_reachable hidle hdistinct hroots hreachable

theorem Shop.flat_complete :
    ∃ s, Context.run ⟨schema, "Shop", true⟩ service.methods = .ok s ∧ s.result service = result ∧
      Stemming schema service s.given flat ∧ Complete schema service s.given flat := by
  obtain ⟨s, hrun, hresult, hstemming, hcomplete⟩ :=
    flatten_complete link_eq file_mem service_mem (flatten_eq true)
  exact ⟨s, hrun, hresult, hstemming, hcomplete rfl⟩

end ClientGen
