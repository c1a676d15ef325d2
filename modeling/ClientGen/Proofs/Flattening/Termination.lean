import ClientGen.Proofs.Flattening.Growth
import ClientGen.Proofs.Flattening.History
import ClientGen.Proofs.Flattening.MethodOrder

/-!
# Runs end

A run has only so many points, whatever cycles its types form, and it walks the fields of a message
at most once. `State.walking?` tells how far the topmost walk has come: whose fields they are, and
how many are behind. What was walked stays so (`Walked.move`), a step makes its own place walked
(`Advance.walked`), and no run stands at a walked place (`Sound.not_walked`). So the places of a
history are distinct (`nodup_walking`). With whole map entries a lenient run returns, and a strict
one fails only at a collision (`flatten_ends`).
-/

set_option autoImplicit false
set_option relaxedAutoImplicit false

namespace ClientGen

open Declaration Flattening

namespace Flattening

/-- How far the walk of the topmost message has come: the full name of the message, and the number
of its fields that are walked. -/
def State.walking? (s : State) : Option (String × Nat) :=
  s.stack.head?.bind fun top ↦ (s.visit? top.name).map fun visit ↦ (visit.owner, top.done.length)

/-- The field at a position of a message is walked: the message is finished, or its walk has come
further. -/
def State.Walked (s : State) (place : String × Nat) : Prop :=
  ∃ visit ∈ s.visits, visit.owner = place.1 ∧
    (visit.name ∈ s.messages.map Record.Message.name ∨
      ∃ frame ∈ s.stack, frame.name = visit.name ∧ place.2 < frame.done.length)

section Places

variable {c : Context} {service : Service} {s t : State} {place : String × Nat} {visit : Visit}

theorem State.visit?_eq_some {name : String} (h : s.visit? name = some visit) :
    visit ∈ s.visits ∧ visit.name = name :=
  ⟨List.mem_of_find?_eq_some h, by simpa using List.find?_some h⟩

theorem State.walking?_eq_some (h : s.walking? = some place) :
    ∃ top rest, s.stack = top :: rest ∧ ∃ visit, s.visit? top.name = some visit ∧
      place = (visit.owner, top.done.length) := by
  obtain ⟨top, htop, hvisit⟩ := Option.bind_eq_some_iff.mp h
  obtain ⟨rest, hstack⟩ := List.head?_eq_some_iff.mp htop
  obtain ⟨visit, hvisit, hplace⟩ := Option.map_eq_some_iff.mp hvisit
  exact ⟨top, rest, hstack, visit, hvisit, hplace.symm⟩

/-! ### What was walked stays so -/

theorem State.Walked.advance (h : s.Walked place) (hadvance : Advance c s t) : t.Walked place := by
  obtain ⟨visit, hvisit, howner, hwalked⟩ := h
  refine ⟨visit, hadvance.grows.visits.subset hvisit, howner, ?_⟩
  rcases hwalked with hfinished | ⟨frame, hframe, hname, hdone⟩
  · exact .inl (List.map_subset _ hadvance.grows.messages.subset hfinished)
  · cases hadvance with
    | finish hstack =>
      rw [hstack] at hframe
      rcases List.mem_cons.mp hframe with rfl | hframe
      · exact .inl (by simp [Frame.record, hname])
      · exact .inr ⟨frame, hframe, hname, hdone⟩
    | @field top rest field subject pending target start u hstack =>
      rw [hstack] at hframe
      rcases List.mem_cons.mp hframe with rfl | hframe
      · refine .inr ⟨_, List.mem_append_right _ List.mem_cons_self, hname, ?_⟩
        rw [List.length_append]
        exact Nat.lt_add_right _ hdone
      · exact .inr ⟨frame, List.mem_append_right _ (List.mem_cons_of_mem _ hframe), hname, hdone⟩

theorem State.Walked.move (h : s.Walked place) (hmove : Move c service s t) : t.Walked place := by
  cases hmove with
  | note => exact h
  | call => exact h
  | enter hidle _ hnaming =>
    obtain ⟨visit, hvisit, howner, hwalked⟩ := h
    refine ⟨visit, hnaming.grows.visits.subset hvisit, howner, .inl ?_⟩
    rcases hwalked with hfinished | ⟨frame, hframe, -⟩
    · exact List.map_subset _ hnaming.grows.messages.subset hfinished
    · rw [hidle] at hframe
      cases hframe
  | advance hadvance => exact h.advance hadvance

/-- A step leaves its own place walked. -/
theorem Advance.walked (h : Advance c s t) (hplace : s.walking? = some place) :
    t.Walked place := by
  obtain ⟨top, rest, hstack, visit, hvisit, rfl⟩ := State.walking?_eq_some hplace
  obtain ⟨hmem, hname⟩ := State.visit?_eq_some hvisit
  refine ⟨visit, h.grows.visits.subset hmem, rfl, ?_⟩
  cases h with
  | finish hstack' =>
    rw [hstack] at hstack'
    cases hstack'
    exact .inl (by simp [Frame.record, hname])
  | field hstack' =>
    rw [hstack] at hstack'
    cases hstack'
    refine .inr ⟨_, List.mem_append_right _ List.mem_cons_self, hname.symm, ?_⟩
    simp

namespace Sound

variable {top : Frame} {rest : List Frame}

/-- Messages that finished and messages that are being walked have distinct names. -/
theorem nodup_names (h : Sound c service s) :
    (s.messages.map Record.Message.name ++ s.stack.map Frame.name).Nodup := by
  refine h.recorded.names.nodup_iff.mpr ?_
  rw [← State.map_fst_messageOwners]
  exact h.tabled.messages.nodup

/-- A message owns one flat name. -/
theorem name_eq_of_owner_eq (h : Sound c service s) {first second : Visit}
    (hfirst : first ∈ s.visits) (hsecond : second ∈ s.visits)
    (howner : first.owner = second.owner) : first.name = second.name := by
  have hgiven (visit : Visit) (hvisit : visit ∈ s.visits) :
      s.flatName? visit.owner = some visit.name := by
    obtain ⟨message, hmessage, hfound⟩ := h.tabled.messages.first visit.name visit.owner
      (List.mem_map.mpr ⟨visit, hvisit, rfl⟩)
    obtain ⟨fullName, hmem, hother⟩ := mem_of_firstGiven? hfound
    rw [← Schema.fullName_of_message? hmessage, Schema.fullName_of_message? hother]
    exact h.tabled.flatName?_eq_some_iff.mpr hmem
  have hsame := hgiven first hfirst
  rw [howner, hgiven second hsecond] at hsame
  exact (Option.some.inj hsame).symm

/-- The place of a run is not walked yet. -/
theorem not_walked (h : Sound c service s) (hplace : s.walking? = some place) :
    ¬s.Walked place := by
  obtain ⟨top, rest, hstack, visit, hvisit, rfl⟩ := State.walking?_eq_some hplace
  obtain ⟨hmem, hname⟩ := State.visit?_eq_some hvisit
  rintro ⟨other, hother, howner, hwalked⟩
  have hotherName : other.name = top.name := (h.name_eq_of_owner_eq hother hmem howner).trans hname
  have hnodup := h.nodup_names
  rw [hstack, List.map_cons] at hnodup
  obtain ⟨-, hstackNodup, hdisjoint⟩ := List.nodup_append.mp hnodup
  rcases hwalked with hfinished | ⟨frame, hframe, hframeName, hdone⟩
  · exact hdisjoint _ hfinished _ List.mem_cons_self hotherName
  · rw [hstack] at hframe
    rcases List.mem_cons.mp hframe with rfl | hframe
    · exact Nat.lt_irrefl _ hdone
    · refine (List.nodup_cons.mp hstackNodup).1 ?_
      exact List.mem_map.mpr ⟨frame, hframe, hframeName.trans hotherName⟩

/-- The topmost frame walks the fields of one message: those that it has before it are the last
fields of the message. -/
theorem exists_walking (h : Sound c service s) (hstack : s.stack = top :: rest) :
    ∃ message, c.schema.message? message.fullName = some message ∧
      s.walking? = some (message.fullName, top.done.length) ∧
      message.fields.drop top.done.length = top.pending := by
  obtain ⟨message, walked, hfirst, -, hfields, hwalked⟩ := h.recorded.frames top (by simp [hstack])
  have hvisited : top.name ∈ s.visits.map Visit.name := by
    refine h.recorded.names.mem_iff.mp (List.mem_append_right _ ?_)
    simp [hstack]
  cases hvisit : s.visit? top.name with
  | none =>
    have hfree := State.visit?_eq_none_iff.mp hvisit
    rw [State.map_fst_messageOwners] at hfree
    exact absurd hvisited hfree
  | some visit =>
    obtain ⟨hmem, hname⟩ := State.visit?_eq_some hvisit
    obtain ⟨owner, howner, hfirst'⟩ := h.tabled.messages.first visit.name visit.owner
      (List.mem_map.mpr ⟨visit, hmem, rfl⟩)
    rw [hname, hfirst] at hfirst'
    cases hfirst'
    have hfullName := Schema.fullName_of_message? howner
    refine ⟨message, hfullName ▸ howner, ?_, ?_⟩
    · rw [State.walking?, hstack, List.head?_cons, Option.bind_some, hvisit, hfullName]
      rfl
    · rw [hfields, ← hwalked.length_eq, List.drop_left]

end Sound

end Places

namespace History

variable {c : Context} {service : Service} {start p : Point} {past : List Point}

theorem walked (h : History c start past p) (hstart : start.Rooted c.schema service) :
    ∀ q ∈ past, ∀ place, q.state.walking? = some place → p.state.Walked place := by
  induction h with
  | start => simp
  | @next before p q history hbusy hnext ih =>
    intro r hr place hplace
    rcases List.mem_cons.mp hr with rfl | hr
    · obtain ⟨top, rest, hstack, -⟩ := State.walking?_eq_some hplace
      exact (Context.next_advance (by simp [hstack]) hnext).1.walked hplace
    · exact (ih r hr place hplace).move (Context.next_move (history.rooted hstart) hbusy hnext).1

/-- A run is at each place of each message at most once. -/
theorem nodup_walking (h : History c start past p) (hstart : start.Rooted c.schema service)
    (hempty : start.state = {}) : ((p :: past).filterMap fun q ↦ q.state.walking?).Nodup := by
  induction h with
  | start =>
    rw [List.filterMap_cons]
    split <;> simp
  | @next before p q history hbusy hnext ih =>
    have hwalked := (history.next hbusy hnext).walked hstart
    have hsound := Sound.of_moves (hempty ▸ (history.next hbusy hnext).moves hstart)
    rw [List.filterMap_cons]
    split
    · exact ih
    · next place hplace =>
      refine List.nodup_cons.mpr ⟨fun hagain ↦ ?_, ih⟩
      obtain ⟨r, hr, hsame⟩ := List.mem_filterMap.mp hagain
      exact hsound.not_walked hplace (hwalked r hr place hsame)

end History

end Flattening

/-- A run gets to an end, where it returns or fails. On its way it has a limited number of points,
it is at each field of each message at most once, and it walks the fields of a message in order. If
every entry of a map is whole, a lenient run returns, and a strict run fails at nothing but a
collision. -/
theorem flatten_ends (schema : Schema) (strict : Bool) (service : Service) :
    (∃ past p, Course schema strict service past p ∧
      (p.Done ∧ flatten schema strict service = .ok (p.state.result service) ∨
        ∃ halt, ¬p.Done ∧ Context.next ⟨schema, service.name, strict⟩ p = .error halt ∧
          flatten schema strict service = .error halt)) ∧
    (∀ past p, Course schema strict service past p →
      past.length ≤ schema.cost + 3 * service.methods.length ∧
      ((p :: past).filterMap fun q ↦ q.state.walking?).Nodup ∧
      ∀ top rest, p.state.stack = top :: rest → ∃ message,
        schema.message? message.fullName = some message ∧
        p.state.walking? = some (message.fullName, top.done.length) ∧
        message.fields.drop top.done.length = top.pending) ∧
    (schema.WholeEntries → Returns (flatten schema false service) ∧
      ∀ halt, flatten schema true service = .error halt →
        ∃ report, halt.failure = .collision report) := by
  refine ⟨Course.exists_end schema strict service,
    fun past p hcourse ↦ ⟨hcourse.length_le, ?_, ?_⟩, fun hwhole ↦ ⟨?_, ?_⟩⟩
  · exact History.nodup_walking hcourse (Course.start_rooted schema strict service) rfl
  · exact fun top rest hstack ↦ hcourse.sound.exists_walking hstack
  · exact flatten_returns hwhole service
  · intro halt hhalt
    cases hfailure : halt.failure with
    | collision report => exact ⟨report, rfl⟩
    | shortEntry => exact absurd hwhole (not_wholeEntries_of_shortEntry hhalt hfailure)

/-- Members lead to teams through a map, and teams to members; the run ends after few points. -/
theorem Club.members_end :
    schema.WholeEntries ∧ Returns (flatten schema false service) ∧
      ∃ past p, Course schema true service past p ∧ p.state.result service = result ∧
        past.length ≤ 14 ∧ ((p :: past).filterMap fun q ↦ q.state.walking?).Nodup := by
  obtain ⟨⟨past, p, hcourse, hend⟩, hpoints, hwhole⟩ := flatten_ends schema true service
  obtain ⟨hlength, hnodup, -⟩ := hpoints past p hcourse
  refine ⟨wholeEntries, (hwhole wholeEntries).1, past, p, hcourse, ?_, hlength, hnodup⟩
  rcases hend with ⟨-, hreturns⟩ | ⟨halt, -, -, hfails⟩
  · rw [flatten_eq] at hreturns
    exact (Except.ok.inj hreturns).symm
  · rw [flatten_eq] at hfails
    cases hfails

end ClientGen
