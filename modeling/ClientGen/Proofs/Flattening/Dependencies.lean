import ClientGen.Proofs.Flattening.Resolution
import ClientGen.Proofs.Flattening.Visits
import ClientGen.Proofs.Flattening.Writing

/-!
# Dependencies come first

The record of a message is appended when all its fields are walked, so that what they refer to is
finished by then or is being walked itself. A message that is still being walked leads to every
message above it on the stack, through the fields that are written so far, since a walk begins with
the field that asks for it (`Layered.advance`). So a record refers to an earlier one, or to one that
leads back to it, and where no record leads back to itself the list of records is a topological
order (`flatten_ordered`).
-/

set_option autoImplicit false
set_option relaxedAutoImplicit false

namespace ClientGen

open Declaration Flattening Relation

namespace Record

/-- The name of the message that a field refers to, itself or as a map by its values. -/
def Field.messageName? (field : Field) : Option String :=
  match field.kind with
  | .scalar _ _ => none
  | .reference typeName _ => if field.type = FieldType.message.tag then some typeName else none
  | .map _ valueType valueName =>
    if valueType = FieldType.message.tag then some valueName else none

/-- A record of a message in a service refers to another one. -/
structure Service.Refers (service : Service) (first second : Message) : Prop where
  first_mem : first ∈ service.messages
  second_mem : second ∈ service.messages
  field : ∃ field ∈ first.fields, field.messageName? = some second.name

end Record

/-! ### References to messages in the records of fields -/

namespace Schema

variable {schema : Schema} {given : List (String × String)} {field subject : Field} {name : String}

/-- The linked fields that refer to a message are those of a message type. -/
theorem FieldLinked.type_eq_message_iff (h : schema.FieldLinked field) :
    field.type = .message ↔ ∃ message, schema.referent? field = some (.message message) := by
  unfold FieldLinked at h
  unfold referent?
  split at h
  · next htype =>
    obtain ⟨message, hlink, howner⟩ := h
    simp [hlink, howner, htype]
  · next htype =>
    obtain ⟨enum, hlink, howner⟩ := h
    simp [hlink, howner, htype]
  · next hmessage henum => simpa [h] using hmessage

/-- Assumes: a subject of a message type. The record of a field whose target is named refers to the
message under the name. -/
theorem messageName?_fieldRecord (hsubject : schema.subject? field = some subject)
    (htype : subject.type = .message) :
    (fieldRecord field (schema.entry? field) (.named name)).messageName? = some name := by
  rcases subject?_eq_some hsubject with ⟨key, hentry⟩ | ⟨hentry, rfl⟩
  · simp [hentry, fieldRecord, Record.Field.messageName?, htype]
  · simp [hentry, fieldRecord, Record.Field.messageName?, htype]

/-- Assumes: a linked subject. A record that refers to a message stems from a subject that refers to
one, and has the name that the table gives it. -/
theorem exists_message_of_messageName? (hsubject : schema.subject? field = some subject)
    (hlinked : schema.FieldLinked subject)
    (h : (schema.flatField given field).messageName? = some name) :
    ∃ message, schema.referent? subject = some (.message message) ∧
      schema.isText subject = false ∧ name = schema.referentName given subject := by
  have hstring : FieldType.string.tag ≠ FieldType.message.tag := by decide
  cases htext : schema.isText subject with
  | true =>
    unfold Record.Field.messageName? at h
    rcases subject?_eq_some hsubject with ⟨key, hentry⟩ | ⟨hentry, rfl⟩
    · rw [kind_flatField_map_text hentry htext] at h
      simp [hstring] at h
    · rw [kind_flatField_text hentry htext] at h
      cases h
  | false =>
    have hshown : ¬schema.isText subject := by simp [htext]
    have htag : subject.type.tag = FieldType.message.tag ∧
        name = schema.referentName given subject := by
      unfold Record.Field.messageName? at h
      rcases subject?_eq_some hsubject with ⟨key, hentry⟩ | ⟨hentry, rfl⟩
      · rw [kind_flatField_map hentry hshown] at h
        simpa [eq_comm] using h
      · cases hreferent : schema.referent? subject with
        | none =>
          rw [kind_flatField_scalar hentry hreferent] at h
          cases h
        | some type =>
          rw [kind_flatField_reference hentry hshown (by simp [hreferent]),
            type_flatField hsubject hshown] at h
          simpa [eq_comm] using h
    obtain ⟨message, hreferent⟩ :=
      hlinked.type_eq_message_iff.mp (FieldType.tag_injective htag.1)
    exact ⟨message, hreferent, rfl, htag.2⟩

end Schema

namespace Flattening

variable {c : Context} {service : Service} {s t : State}

/-! ### What is referred to is entered in the table of visits -/

/-- A faithful frame belongs to a declared message. -/
theorem Frame.Faithful.exists_declared {schema : Schema} {given : List (String × String)}
    {frame : Frame} (h : frame.Faithful schema given) :
    ∃ message walked, .message message ∈ schema.types ∧
      message.fields = walked ++ frame.pending ∧
      List.Forall₂ (FieldWalked schema given) walked frame.done := by
  obtain ⟨message, walked, hfirst, -, hfields, hwalked⟩ := h
  exact ⟨message, walked, mem_types_of_firstGiven? hfirst, hfields, hwalked⟩

/-- What is written in a message stems from a declared field that was walked. -/
theorem Sound.exists_fieldWalked (h : Sound c service s) {name : String} {record : Record.Field}
    (hwrites : s.Writes name record) :
    ∃ message field, .message message ∈ c.schema.types ∧ field ∈ message.fields ∧
      FieldWalked c.schema s.given field record := by
  obtain ⟨draft, hdraft, -, hrecord⟩ := hwrites
  have hframe : ∃ frame : Frame, frame.Faithful c.schema s.given ∧ frame.done = draft.fields := by
    rcases List.mem_append.mp hdraft with hmessage | hstack
    · exact ⟨_, h.recorded.messages draft hmessage, rfl⟩
    · obtain ⟨frame, hframe, rfl⟩ := List.mem_map.mp hstack
      exact ⟨frame, h.recorded.frames frame hframe, rfl⟩
  obtain ⟨frame, hfaithful, hdone⟩ := hframe
  obtain ⟨message, walked, hmessage, hfields, hwalked⟩ := hfaithful.exists_declared
  obtain ⟨field, hfield, hrecorded⟩ := exists_mem_of_forall₂ hwalked (hdone ▸ hrecord)
  exact ⟨message, field, hmessage, hfields ▸ List.mem_append_left _ hfield, hrecorded⟩

/-- Assumes: a linked schema. A message that is referred to owns its name. -/
theorem Sound.mem_visited (h : Sound c service s) (hlinked : c.schema.Linked)
    {first second : String} {record : Record.Field} (hwrites : s.Writes first record)
    (hrefers : record.messageName? = some second) : second ∈ s.visited := by
  obtain ⟨message, field, hmessage, hfield, hwalked⟩ := h.exists_fieldWalked hwrites
  obtain ⟨subject, hsubject⟩ := Option.isSome_iff_exists.mp hwalked.subject
  rw [hwalked.record_eq] at hrefers
  obtain ⟨target, hreferent, htext, rfl⟩ := Schema.exists_message_of_messageName? hsubject
    (hlinked.subject hmessage hfield hsubject) hrefers
  have hshown : (NamedType.message target).isTimestamp = false := by
    simpa [Schema.isText, hreferent] using htext
  have hgiven := h.tabled.mem_given (hwalked.named subject _ hsubject hreferent hshown)
  have howner := Schema.message?_eq_some_iff.mpr (Schema.owner?_of_referent? hreferent)
  have hcovered := h.tabled.messages.covers _ _ hgiven (Option.isSome_of_mem howner)
  rw [State.map_fst_messageOwners] at hcovered
  rw [Schema.referentName, hreferent]
  exact hcovered

/-! ### What is being walked leads to what is above it -/

/-- A message has a field that refers to another one, so far. -/
def State.Leads (s : State) (first second : String) : Prop :=
  ∃ field, s.Writes first field ∧ field.messageName? = some second

/-- Behind the given records a record is in its place: each message that it refers to is among them,
or leads back to it. -/
def State.Placed (s : State) (before : List Record.Message) (record : Record.Message) : Prop :=
  ∀ field ∈ record.fields, ∀ name, field.messageName? = some name →
    name ∈ before.map Record.Message.name ∨ ReflTransGen s.Leads name record.name

theorem State.Placed.mono {before : List Record.Message} {record : Record.Message}
    (h : s.Placed before record)
    (hleads : ∀ first second, s.Leads first second → t.Leads first second) :
    t.Placed before record :=
  fun field hfield name hrefers ↦
    (h field hfield name hrefers).imp_right (ReflTransGen.mono hleads _ _)

/-- Each message that is being walked leads to those above it, and each record is in its place. -/
structure Layered (s : State) : Prop where
  stacked : s.underway.Pairwise fun above below ↦ TransGen s.Leads below above
  placed : ∀ before record after, s.messages = before ++ record :: after → s.Placed before record

theorem Advance.leads (h : Advance c s t) (first second : String) (hleads : s.Leads first second) :
    t.Leads first second := by
  obtain ⟨field, hfield, hrefers⟩ := hleads
  exact ⟨field, h.writes hfield, hrefers⟩

theorem Move.leads (h : Move c service s t) (first second : String)
    (hleads : s.Leads first second) : t.Leads first second := by
  obtain ⟨field, hfield, hrefers⟩ := hleads
  exact ⟨field, h.writes hfield, hrefers⟩

/-- A walk that begins is that of a message, under the name of the target. -/
theorem Targeting.frame_eq_some {subject : Field} {around : String} {target : Target}
    {start : Frame} (h : Targeting c s subject around target (some start) t) :
    target = .named start.name ∧
      ∃ message, c.schema.referent? subject = some (.message message) := by
  cases h with
  | named hreferent _ hnaming =>
    cases hnaming with
    | message => exact ⟨rfl, _, hreferent⟩

namespace Layered

theorem start : Layered {} where
  stacked := .nil
  placed := by simp

section Growth

variable (h : Layered s) (hleads : ∀ first second, s.Leads first second → t.Leads first second)

include h hleads

theorem stacked_of_leads : s.underway.Pairwise fun above below ↦ TransGen t.Leads below above :=
  h.stacked.imp fun hpath ↦ TransGen.mono hleads _ _ hpath

/-- No walk begins or ends. -/
theorem keep (hmessages : t.messages = s.messages) (hunderway : t.underway = s.underway) :
    Layered t where
  stacked := hunderway ▸ h.stacked_of_leads hleads
  placed := fun _ _ _ hsplit ↦ (h.placed _ _ _ (hmessages ▸ hsplit)).mono hleads

/-- A walk begins. Assumes: the message on top leads to the one whose walk it is. -/
theorem begins {name : String} (hmessages : t.messages = s.messages)
    (hunderway : t.underway = name :: s.underway)
    (hnew : ∀ top rest, s.underway = top :: rest → t.Leads top name) : Layered t where
  stacked := by
    have hstacked := h.stacked_of_leads hleads
    rw [hunderway, List.pairwise_cons]
    refine ⟨fun below hbelow ↦ ?_, hstacked⟩
    cases hsplit : s.underway with
    | nil => simp [hsplit] at hbelow
    | cons top rest =>
      have htop : t.Leads top name := hnew top rest hsplit
      rw [hsplit] at hbelow hstacked
      rcases List.mem_cons.mp hbelow with rfl | hrest
      · exact .single htop
      · exact ((List.pairwise_cons.mp hstacked).1 below hrest).tail htop
  placed := fun _ _ _ hsplit ↦ (h.placed _ _ _ (hmessages ▸ hsplit)).mono hleads

/-- A walk ends. Assumes: the record that it leaves is in its place. -/
theorem ends {record : Record.Message} (hmessages : t.messages = s.messages ++ [record])
    (hunderway : s.underway = record.name :: t.underway) (hrecord : s.Placed s.messages record) :
    Layered t where
  stacked := by
    have hstacked := h.stacked_of_leads hleads
    rw [hunderway] at hstacked
    exact (List.pairwise_cons.mp hstacked).2
  placed := by
    intro before other after hsplit
    rw [hmessages] at hsplit
    rcases List.eq_nil_or_concat after with rfl | ⟨rest, last, rfl⟩
    · obtain ⟨rfl, hlast⟩ := List.append_inj' hsplit rfl
      cases hlast
      exact hrecord.mono hleads
    · rw [List.concat_eq_append, ← List.cons_append, ← List.append_assoc] at hsplit
      exact (h.placed _ _ _ (List.append_inj' hsplit rfl).1).mono hleads

end Growth

/-- Assumes: a linked schema, and a message whose walk is on top. What is written of its record is
in its place behind the records there are. -/
theorem placed_top (h : Layered s) (hsound : Sound c service s) (hlinked : c.schema.Linked)
    {top : Frame} {rest : List Frame} (hstack : s.stack = top :: rest) :
    s.Placed s.messages top.record := by
  intro field hfield name hrefers
  have hwrites : s.Writes top.name field := .of_frame (by simp [hstack]) hfield
  have hunderway : s.underway = top.name :: rest.map Frame.name := by simp [State.underway, hstack]
  have hstacked := h.stacked
  rw [hunderway, List.pairwise_cons] at hstacked
  rcases (hsound.accounted.mem_visited name).mp (hsound.mem_visited hlinked hwrites hrefers) with
    hfinished | hunder
  · exact .inl hfinished
  · rw [hunderway] at hunder
    rcases List.mem_cons.mp hunder with rfl | hbelow
    · exact .inr .refl
    · exact .inr (hstacked.1 name hbelow).to_reflTransGen

theorem advance (h : Layered s) (hsound : Sound c service s) (hlinked : c.schema.Linked)
    (hadvance : Advance c s t) : Layered t := by
  have hleads := hadvance.leads
  cases hadvance with
  | @finish top rest hstack _ =>
    refine h.ends hleads rfl ?_ (h.placed_top hsound hlinked hstack)
    simp [State.underway, hstack, Frame.record]
  | @field top rest declared subject pending target frame u hstack hpending hsubject htargeting =>
    cases frame with
    | none => exact h.keep hleads htargeting.messages_eq (by simp [State.underway, hstack])
    | some frame =>
      have hunderway : ∀ done : List Record.Field,
          State.underway { u with stack := frame :: { top with done, pending } :: rest } =
            frame.name :: s.underway := by simp [State.underway, hstack]
      refine h.begins hleads htargeting.messages_eq (hunderway _) fun above below hsplit ↦ ?_
      obtain ⟨rfl, -⟩ : top.name = above ∧ rest.map Frame.name = below := by
        simpa [State.underway, hstack] using hsplit
      -- The walk of the field that was written last has found the message that begins.
      obtain ⟨rfl, message, hreferent⟩ := htargeting.frame_eq_some
      obtain ⟨owner, walked, howner, hfields, -⟩ :=
        (hsound.recorded.frames top (by simp [hstack])).exists_declared
      have hdeclared : declared ∈ owner.fields := by simp [hfields, hpending]
      have htype := (hlinked.subject howner hdeclared hsubject).type_eq_message_iff.mpr
        ⟨message, hreferent⟩
      exact ⟨_, State.writes_walked u [frame] rest top pending _,
        Schema.messageName?_fieldRecord hsubject htype⟩

theorem move (h : Layered s) (hsound : Sound c service s) (hlinked : c.schema.Linked)
    (hmove : Move c service s t) : Layered t := by
  have hleads := hmove.leads
  cases hmove with
  | note => exact h.keep hleads rfl rfl
  | call => exact h.keep hleads rfl rfl
  | advance hadvance => exact h.advance hsound hlinked hadvance
  | @enter message name frame u hidle _ hnaming =>
    have hunderway : s.underway = [] := by simp [State.underway, hidle]
    cases frame with
    | none =>
      refine h.keep hleads hnaming.messages_eq ?_
      simp [State.underway, hnaming.stack_eq]
    | some frame =>
      have hbegins : State.underway { u with stack := frame :: u.stack } =
          frame.name :: s.underway := by simp [State.underway, hnaming.stack_eq]
      exact h.begins hleads hnaming.messages_eq hbegins (by simp [hunderway])

theorem of_moves (hlinked : c.schema.Linked) (h : ReflTransGen (Move c service) {} s) :
    Layered s := by
  induction h with
  | refl => exact .start
  | tail hmoves hmove ih => exact ih.move (.of_moves hmoves) hlinked hmove

end Layered

/-! ### Positions of records -/

/-- Assumes: no message is being walked. What leads to a message, by their names, does so by
references between their records. -/
theorem State.Accounted.refers_path (h : s.Accounted) (hidle : s.stack = [])
    {first : Record.Message} (hfirst : first ∈ s.messages) {name : String}
    (hpath : ReflTransGen s.Leads first.name name) :
    ∀ second ∈ s.messages, second.name = name →
      ReflTransGen (s.result service).service.Refers first second := by
  induction hpath with
  | refl =>
    intro second hsecond hname
    rw [List.inj_on_of_nodup_map h.nodup_finished hsecond hfirst hname]
  | tail _ hlast ih =>
    intro second hsecond hname
    obtain ⟨field, hwritten, hrefers⟩ := hlast
    obtain ⟨middle, hmiddle, hmiddleName, hfield⟩ := (State.writes_iff hidle).mp hwritten
    exact (ih middle hmiddle hmiddleName).tail
      ⟨hmiddle, hsecond, field, hfield, hname ▸ hrefers⟩

/-- Assumes: no message is being walked. A record stands behind those that it refers to, or they
lead back to it. -/
theorem Layered.lt_or_path (h : Layered s) (haccounted : s.Accounted) (hidle : s.stack = [])
    {i j : Nat} {first second : Record.Message} (hfirst : s.messages[i]? = some first)
    (hsecond : s.messages[j]? = some second)
    (hrefers : (s.result service).service.Refers first second) :
    j < i ∨ ReflTransGen (s.result service).service.Refers second first := by
  obtain ⟨hi, hget⟩ := List.getElem?_eq_some_iff.mp hfirst
  have hsplit : s.messages = s.messages.take i ++ first :: s.messages.drop (i + 1) := by
    rw [← hget, ← List.drop_eq_getElem_cons hi, List.take_append_drop]
  obtain ⟨field, hfield, hname⟩ := hrefers.field
  rcases h.placed _ _ _ hsplit field hfield _ hname with hbefore | hpath
  · have hbefore : second.name ∈ s.finished.take i := List.map_take ▸ hbefore
    have hposition : s.finished[j]? = some second.name := by simp [State.finished, hsecond]
    obtain ⟨hj, hname⟩ := List.getElem?_eq_some_iff.mp hposition
    have hindex : s.finished.idxOf second.name = j :=
      hname ▸ haccounted.nodup_finished.idxOf_getElem j hj
    rw [List.mem_take_iff_idxOf_lt (List.mem_of_getElem? hposition), hindex] at hbefore
    exact .inl hbefore
  · exact .inr (haccounted.refers_path hidle hrefers.second_mem hpath first hrefers.first_mem rfl)

end Flattening

/-- Assumes: a linked descriptor set, a service of one of its files, and a result of flattening it.
What a record of a message refers to has its record no later, or leads back to it by references
between records. If no record leads back to itself, what it refers to stands in front of it. -/
theorem flatten_ordered {set : List Descriptor.File} {schema : Schema} {file : File}
    {service : Service} {strict : Bool} {result : Result} (hlink : Schema.link set = .ok schema)
    (hfile : file ∈ schema.files) (hservice : service ∈ file.services)
    (hresult : flatten schema strict service = .ok result) :
    ∀ (i j : Nat) (first second : Record.Message), result.service.messages[i]? = some first →
      result.service.messages[j]? = some second → result.service.Refers first second →
      (j ≤ i ∨ TransGen result.service.Refers second first) ∧
        ((∀ record, ¬TransGen result.service.Refers record record) → j < i) := by
  obtain ⟨s, hruns, rfl, hidle, hsound⟩ := exists_sound_of_flatten hlink hfile hservice hresult
  have hlayered : Layered s :=
    .of_moves (Schema.linked_of_link hlink) (hruns.moves fun _ hmethod ↦ hmethod).1
  intro i j first second hfirst hsecond hrefers
  rcases hlayered.lt_or_path hsound.accounted hidle hfirst hsecond hrefers with hlt | hpath
  · exact ⟨.inl hlt.le, fun _ ↦ hlt⟩
  · refine ⟨?_, fun hacyclic ↦ absurd (TransGen.head' hrefers hpath) (hacyclic first)⟩
    rcases reflTransGen_iff_eq_or_transGen.mp hpath with rfl | hpath
    · have hnodup : s.messages.Nodup := hsound.accounted.nodup_finished.of_map
      obtain ⟨hi, -⟩ := List.getElem?_eq_some_iff.mp hfirst
      have hsame : i = j := (List.getElem?_inj hi hnodup).mp (hfirst.trans hsecond.symm)
      exact .inl hsame.ge
    · exact .inr hpath

namespace Club

/-- The record of a team stands in front of that of a member, to which it refers, so that a member
leads back to a team. -/
theorem member_leads_back :
    result.service.Refers flatTeam flatMember ∧
      TransGen result.service.Refers flatMember flatTeam := by
  have hrefers : result.service.Refers flatTeam flatMember :=
    ⟨.head _, .tail _ (.head _), _, .head _, rfl⟩
  have hordered := flatten_ordered link_eq (List.mem_singleton_self file)
    (List.mem_singleton_self service) flatten_eq
  obtain ⟨hposition, -⟩ := hordered 0 1 flatTeam flatMember rfl rfl hrefers
  exact ⟨hrefers, hposition.resolve_left (by decide)⟩

end Club

end ClientGen
