import ClientGen.Proofs.Flattening.Growth

/-!
# What a run has written

The fields of a message are written one by one, into its frame while it is being walked, and the
frame becomes its record when the walk ends. `State.Writes` says that a message has a field so far,
in whichever of the two. What is written stays (`Move.writes`), so that what is known of a message
that is still being walked holds of its record in the end (`State.writes_iff`).
-/

set_option autoImplicit false
set_option relaxedAutoImplicit false

namespace ClientGen

open Declaration Flattening

namespace Flattening

namespace State

/-- The records of messages as far as they are written: those that are finished, and those of the
frames. -/
def drafts (s : State) : List Record.Message :=
  s.messages ++ s.stack.map Frame.record

/-- A message has a field, so far. -/
def Writes (s : State) (name : String) (field : Record.Field) : Prop :=
  ∃ draft ∈ s.drafts, draft.name = name ∧ field ∈ draft.fields

variable {s t : State} {name : String} {field : Record.Field}

/-- While no message is being walked, the records say what is written. -/
theorem writes_iff (hidle : s.stack = []) :
    s.Writes name field ↔ ∃ record ∈ s.messages, record.name = name ∧ field ∈ record.fields := by
  simp [Writes, drafts, hidle]

theorem Writes.of_frame {frame : Frame} (hframe : frame ∈ s.stack) (hfield : field ∈ frame.done) :
    s.Writes frame.name field :=
  ⟨frame.record, List.mem_append_right _ (List.mem_map_of_mem hframe), rfl, hfield⟩

/-- Drafts that live on, with their fields, keep what is written. -/
theorem Writes.of_drafts (h : s.Writes name field)
    (hdrafts : ∀ draft ∈ s.drafts, ∃ later ∈ t.drafts, later.name = draft.name ∧
      draft.fields ⊆ later.fields) : t.Writes name field := by
  obtain ⟨draft, hdraft, rfl, hfield⟩ := h
  obtain ⟨later, hlater, hname, hfields⟩ := hdrafts draft hdraft
  exact ⟨later, hlater, hname, hfields hfield⟩

end State

/-! ### What is written stays -/

section Moves

variable {c : Context} {service : Service} {s t : State} {name : String} {field : Record.Field}

theorem Targeting.messages_eq {subject : Field} {around : String} {target : Target}
    {frame : Option Frame} (h : Targeting c s subject around target frame t) :
    t.messages = s.messages := by
  cases h with
  | scalar => rfl
  | timestamp => rfl
  | named _ _ hnaming => exact hnaming.messages_eq

theorem Advance.writes (h : Advance c s t) (hwrites : s.Writes name field) :
    t.Writes name field := by
  cases h with
  | @finish top rest hstack =>
    refine hwrites.of_drafts fun draft hdraft ↦ ⟨draft, ?_, rfl, fun _ h ↦ h⟩
    simpa [State.drafts, hstack] using hdraft
  | @field top rest declared subject pending target frame u hstack _ _ htargeting =>
    refine hwrites.of_drafts fun draft hdraft ↦ ?_
    simp only [State.drafts, hstack, List.map_cons, List.mem_append, List.mem_cons] at hdraft
    rcases hdraft with hmessage | rfl | hrest
    · exact ⟨draft, by simp [State.drafts, htargeting.messages_eq, hmessage], rfl, fun _ h ↦ h⟩
    · refine ⟨Frame.record { top with
        done := top.done ++ [fieldRecord declared (c.schema.entry? declared) target]
        pending }, ?_, rfl, List.subset_append_left _ _⟩
      simp [State.drafts]
    · exact ⟨draft, by simp [State.drafts, hrest], rfl, fun _ h ↦ h⟩

theorem Move.writes (h : Move c service s t) (hwrites : s.Writes name field) :
    t.Writes name field := by
  cases h with
  | note => exact hwrites
  | call => exact hwrites
  | enter hidle _ hnaming =>
    refine hwrites.of_drafts fun draft hdraft ↦ ⟨draft, ?_, rfl, fun _ h ↦ h⟩
    rw [State.drafts, hidle, List.map_nil, List.append_nil] at hdraft
    simp [State.drafts, hnaming.messages_eq, hdraft]
  | advance hadvance => exact hadvance.writes hwrites

end Moves

/-- A field that was walked is written. -/
theorem State.writes_walked (u : State) (started rest : List Frame) (top : Frame)
    (pending : List Field) (record : Record.Field) :
    State.Writes { u with stack := started ++ { top with
      done := top.done ++ [record]
      pending } :: rest } top.name record := by
  refine ⟨Frame.record { top with done := top.done ++ [record], pending }, ?_, rfl, ?_⟩
  · simp [State.drafts]
  · exact List.mem_append_right _ (List.mem_singleton_self record)

end Flattening

end ClientGen
