import ClientGen.Proofs.Flattening.Records

/-!
# The invariant of runs

`Sound` joins what holds of every state that a run on a service passes: the table of flat names is
in order, records and frames are faithful to it, only types that the service reaches have names, and
in a strict run no name was given twice. Every move keeps it (`Sound.move`), so that it holds
wherever moves lead from the empty state, and in particular where a run ends
(`exists_sound_of_linked`).
-/

set_option autoImplicit false
set_option relaxedAutoImplicit false

namespace ClientGen.Flattening

open Declaration Relation

/-- What holds of every state of a run on a service. -/
structure Sound (c : Context) (service : Service) (s : State) : Prop where
  tabled : Tabled c.schema s
  recorded : Recorded c.schema s
  reachable : ∀ fullName name, (fullName, name) ∈ s.given →
    ∃ type, c.schema.owner? fullName = some type ∧ c.schema.Reachable service type
  distinct : c.strict → Distinct s

namespace Sound

variable {c : Context} {service : Service} {s t : State}

theorem start : Sound c service {} where
  tabled := .start
  recorded := ⟨.nil, by simp, by simp, .nil⟩
  reachable := by simp
  distinct := fun _ ↦ List.nodup_nil

theorem reachable_of_firstGiven? (h : Sound c service s) {name : String} {message : Message}
    (hfirst : firstGiven? c.schema.message? s.given name = some message) :
    c.schema.Reachable service (.message message) := by
  obtain ⟨fullName, hmem, hmessage⟩ := mem_of_firstGiven? hfirst
  obtain ⟨type, howner, hreachable⟩ := h.reachable fullName name hmem
  rw [Schema.message?_eq_some_iff.mp hmessage] at howner
  cases howner
  exact hreachable

theorem naming {type : NamedType} {around : Option String} {name : String}
    {frame : Option Frame} (h : Sound c service s) (hreachable : c.schema.Reachable service type)
    (hnaming : Naming c s type around name frame t) :
    Sound c service { t with stack := frame.toList ++ t.stack } where
  tabled :=
    have htabled := h.tabled.naming hreachable.owner? hnaming
    ⟨htabled.fullNames, htabled.declared, htabled.messages, htabled.enums⟩
  recorded := h.recorded.naming hnaming (h.tabled.naming hreachable.owner? hnaming)
    hreachable.owner?
  reachable := by
    intro fullName flat hmem
    rcases hnaming.mem_given hmem with hmem | ⟨-, hnew⟩
    · exact h.reachable fullName flat hmem
    · cases hnew
      exact ⟨type, hreachable.owner?, hreachable⟩
  distinct := fun hstrict ↦ hnaming.distinct h.tabled hstrict (h.distinct hstrict)

/-- The state in which a field was walked, before its record joins the frame of its message. -/
theorem targeting {field subject : Field} {pending : List Field} {top : Frame}
    {rest : List Frame} {target : Target} {frame : Option Frame} (h : Sound c service s)
    (hstack : s.stack = top :: rest) (hpending : top.pending = field :: pending)
    (hsubject : c.schema.subject? field = some subject)
    (htargeting : Targeting c s subject top.name target frame t) :
    Sound c service { t with stack := frame.toList ++ t.stack } ∧ t.stack = top :: rest := by
  cases htargeting with
  | scalar => exact ⟨h, hstack⟩
  | timestamp => exact ⟨h, hstack⟩
  | named hreferent hshown hnaming =>
    refine ⟨h.naming ?_ hnaming, by rw [hnaming.stack_eq, hstack]⟩
    obtain ⟨message, walked, hfirst, -, hfields, -⟩ :=
      h.recorded.frames top (by simp [hstack])
    refine .field (h.reachable_of_firstGiven? hfirst) ?_ hsubject hreferent hshown
    simp [hfields, hpending]

/-- A frame on the stack may be replaced by one under the same name that is as faithful. -/
theorem replaceFrame {started rest : List Frame} {top top' : Frame}
    (h : Sound c service { t with stack := started ++ top :: rest })
    (hname : top'.name = top.name) (hfaithful : top'.Faithful c.schema t.given) :
    Sound c service { t with stack := started ++ top' :: rest } where
  tabled := ⟨h.tabled.fullNames, h.tabled.declared, h.tabled.messages, h.tabled.enums⟩
  recorded := {
    names := by simpa [hname] using h.recorded.names
    messages := h.recorded.messages
    frames := by
      intro frame hframe
      rcases List.mem_append.mp hframe with hframe | hframe
      · exact h.recorded.frames frame (List.mem_append_left _ hframe)
      · rcases List.mem_cons.mp hframe with rfl | hframe
        · exact hfaithful
        · exact h.recorded.frames frame (by simp [hframe])
    enums := h.recorded.enums }
  reachable := h.reachable
  distinct := h.distinct

theorem advance (h : Sound c service s) (hadvance : Advance c s t) : Sound c service t := by
  cases hadvance with
  | @finish top rest hstack hdone =>
    have hnames : s.messages.map Record.Message.name ++ s.stack.map Frame.name =
        (s.messages ++ [top.record]).map Record.Message.name ++ rest.map Frame.name := by
      simp [hstack, Frame.record]
    have hfinished : Frame.finished top.record = top := by
      simp [Frame.finished, Frame.record, ← hdone]
    refine ⟨⟨h.tabled.fullNames, h.tabled.declared, h.tabled.messages, h.tabled.enums⟩,
      ⟨hnames ▸ h.recorded.names, ?_, ?_, h.recorded.enums⟩, h.reachable, h.distinct⟩
    · intro record hrecord
      rcases List.mem_append.mp hrecord with hrecord | hrecord
      · exact h.recorded.messages record hrecord
      · obtain rfl := List.mem_singleton.mp hrecord
        rw [hfinished]
        exact h.recorded.frames top (by simp [hstack])
    · exact fun frame hframe ↦ h.recorded.frames frame (by simp [hstack, hframe])
  | @field top rest field subject pending target frame u hstack hpending hsubject htargeting =>
    obtain ⟨hsound, hstack'⟩ := h.targeting hstack hpending hsubject htargeting
    obtain ⟨message, walked, hfirst, hcomment, hfields, hwalked⟩ :=
      hsound.recorded.frames top (by simp [hstack'])
    have hfield := htargeting.fieldWalked hsubject
    have hnext : Frame.Faithful c.schema u.given { top with
        done := top.done ++ [fieldRecord field (c.schema.entry? field) target]
        pending } := by
      refine ⟨message, walked ++ [field], hfirst, hcomment, ?_, ?_⟩
      · rw [hfields, hpending, List.append_assoc]
        rfl
      · exact List.rel_append hwalked (.cons hfield .nil)
    rw [hstack'] at hsound
    exact hsound.replaceFrame rfl hnext

theorem move (h : Sound c service s) (hmove : Move c service s t) : Sound c service t := by
  cases hmove with
  | note | call => exact ⟨⟨h.tabled.fullNames, h.tabled.declared, h.tabled.messages,
      h.tabled.enums⟩, ⟨h.recorded.names, h.recorded.messages, h.recorded.frames,
      h.recorded.enums⟩, h.reachable, h.distinct⟩
  | enter _ hroot hnaming => exact h.naming (.root hroot) hnaming
  | advance hadvance => exact h.advance hadvance

/-- Wherever moves lead from the empty state, the invariant holds. -/
theorem of_moves (h : ReflTransGen (Move c service) {} s) : Sound c service s := by
  induction h with
  | refl => exact .start
  | tail _ hmove ih => exact ih.move hmove

end Sound

/-- The state in which a run that returns ends. Assumes: a service whose methods are linked, and a
result of flattening it. -/
theorem exists_sound_of_linked {schema : Schema} {service : Service} {strict : Bool}
    {result : Result} (hlinked : ∀ method ∈ service.methods, schema.MethodLinked method)
    (hresult : flatten schema strict service = .ok result) :
    ∃ s, Runs ⟨schema, service.name, strict⟩ service.methods s ∧ s.result service = result ∧
      s.stack = [] ∧ Sound ⟨schema, service.name, strict⟩ service s := by
  obtain ⟨s, hrun, heq⟩ := exists_run_of_flatten hresult
  have hruns := Runs.of_eq_ok hlinked hrun
  obtain ⟨hmoves, hidle⟩ := hruns.moves fun _ hmethod ↦ hmethod
  exact ⟨s, hruns, heq, hidle, .of_moves hmoves⟩

/-- The methods of a service of a linked descriptor set are linked. -/
theorem exists_sound_of_flatten {set : List Descriptor.File} {schema : Schema} {file : File}
    {service : Service} {strict : Bool} {result : Result} (hlink : Schema.link set = .ok schema)
    (hfile : file ∈ schema.files) (hservice : service ∈ file.services)
    (hresult : flatten schema strict service = .ok result) :
    ∃ s, Runs ⟨schema, service.name, strict⟩ service.methods s ∧ s.result service = result ∧
      s.stack = [] ∧ Sound ⟨schema, service.name, strict⟩ service s :=
  exists_sound_of_linked ((Schema.linked_of_link hlink).method file hfile service hservice) hresult

end ClientGen.Flattening
