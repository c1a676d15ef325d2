import ClientGen.Proofs.Flattening.Strictness

/-!
# Runs that return

Two things stop a run: a collision in a strict run, and the entry of a map that lacks a key or a
value field. So a lenient run returns if every entry is whole (`Schema.WholeEntries`). Each function
of the walk returns then, and draining does because it ends (`flatten_returns`). A strict run fails
at nothing but a collision then, because it does what the lenient run does until it stops
(`not_wholeEntries_of_shortEntry`).
-/

set_option autoImplicit false
set_option relaxedAutoImplicit false

namespace ClientGen

open Declaration Flattening

/-- Every entry of a map has a key field and a value field. -/
def Schema.WholeEntries (schema : Schema) : Prop :=
  ∀ message, .message message ∈ schema.types → message.mapEntry → 2 ≤ message.fields.length

namespace Schema

variable {schema : Schema} {field : Field} {entry : Message}

theorem mapEntry?_eq_some (h : schema.mapEntry? field = some entry) :
    .message entry ∈ schema.types ∧ entry.mapEntry := by
  unfold mapEntry? at h
  split_ifs at h
  obtain ⟨hmessage, hmarked⟩ := Option.filter_eq_some_iff.mp h
  refine ⟨?_, hmarked⟩
  unfold fieldMessage? at hmessage
  split at hmessage
  · exact mem_types_of_message? hmessage
  · cases hmessage

/-- The entry of a map has a key and a value, if every entry is whole. -/
theorem WholeEntries.exists_fields (h : schema.WholeEntries)
    (hentry : schema.mapEntry? field = some entry) :
    ∃ key value rest, entry.fields = key :: value :: rest := by
  obtain ⟨hmem, hmarked⟩ := mapEntry?_eq_some hentry
  have hlength := h entry hmem hmarked
  cases hfields : entry.fields with
  | nil => simp [hfields] at hlength
  | cons key others =>
    cases others with
    | nil => simp [hfields] at hlength
    | cons value rest => exact ⟨key, value, rest, rfl⟩

theorem WholeEntries.isSome_subject? (h : schema.WholeEntries) (field : Field) :
    (schema.subject? field).isSome := by
  unfold subject? entry?
  cases hentry : schema.mapEntry? field with
  | none => rfl
  | some entry =>
    obtain ⟨key, value, rest, hfields⟩ := h.exists_fields hentry
    simp [hfields]

end Schema

namespace Flattening

namespace Context

variable {c : Context} {s : State} (hlenient : c.strict = false)

include hlenient

theorem report_returns (report : Report) : Returns (c.report report s) := by
  rw [Context.report, hlenient]
  exact .ok _

theorem claimMessage_returns (fullName name : String) :
    Returns (c.claimMessage fullName name s) := by
  unfold claimMessage
  split
  · exact report_returns hlenient _
  · dsimp only
    split
    · exact report_returns hlenient _
    · exact .ok _

theorem claimEnum_returns (fullName name : String) : Returns (c.claimEnum fullName name s) := by
  unfold claimEnum
  split
  · exact report_returns hlenient _
  · dsimp only
    split
    · exact report_returns hlenient _
    · exact .ok _

theorem reachMessage_returns (message : Message) (around : Option String) :
    Returns (c.reachMessage message around s) := by
  unfold reachMessage
  split
  · exact .ok _
  · exact (claimMessage_returns hlenient _ _).map

theorem reachEnum_returns (enum : Enum) (around : Option String) :
    Returns (c.reachEnum enum around s) := by
  unfold reachEnum
  split
  · exact .ok _
  · exact (claimEnum_returns hlenient _ _).map

theorem reach_returns (field : Field) (around : String) : Returns (c.reach field around s) := by
  unfold reach
  split
  · exact .ok _
  · split
    · exact .ok _
    · exact (reachEnum_returns hlenient _ _).map
  · split
    · exact .ok _
    · split
      · exact .ok _
      · exact (reachMessage_returns hlenient _ _).map

variable (hwhole : c.schema.WholeEntries)

include hwhole

theorem walkField_returns (around : String) (field : Field) :
    Returns (c.walkField around field s) := by
  unfold walkField
  split
  · exact (reach_returns hlenient _ _).map
  · next entry hentry =>
    obtain ⟨key, value, rest, hfields⟩ := hwhole.exists_fields hentry
    rw [hfields]
    exact (reach_returns hlenient _ _).map

theorem step_returns (s : State) : Returns (c.step s) := by
  unfold step
  split
  · exact .ok _
  · split
    · exact .ok _
    · exact (walkField_returns hlenient hwhole _ _).map

/-- Draining ends, and no step of it fails. -/
theorem drain_returns (s : State) : Returns (c.drain s) := by
  induction s using drain.induct c with
  | case1 s hidle =>
    rw [drain_idle hidle]
    exact .ok _
  | case2 s hstack halt hstep =>
    obtain ⟨t, ht⟩ := step_returns hlenient hwhole s
    rw [hstep] at ht
    cases ht
  | case3 s hstack t hstep ih =>
    rw [drain_busy hstack, hstep]
    exact ih

theorem walkMessage_returns (message : Message) (s : State) :
    Returns (c.walkMessage message s) := by
  refine (reachMessage_returns hlenient message none).bind ?_
  rintro ⟨name, frame, t⟩ -
  exact drain_returns hlenient hwhole _

theorem walkMethod_returns (s : State) (method : Method) : Returns (c.walkMethod s method) := by
  unfold walkMethod
  split
  · exact .ok _
  · split
    · exact .ok _
    · split
      · refine (walkMessage_returns hlenient hwhole _ s).bind fun t _ ↦ ?_
        exact (walkMessage_returns hlenient hwhole _ t).bind fun u _ ↦ .ok _
      · exact .ok _

theorem foldlM_returns (methods : List Method) (s : State) :
    Returns (methods.foldlM c.walkMethod s) := by
  induction methods generalizing s with
  | nil => exact .ok s
  | cons method rest ih =>
    rw [List.foldlM_cons]
    exact (walkMethod_returns hlenient hwhole s method).bind fun t _ ↦ ih t

end Context

/-- Assumes: every entry of a map is whole. A lenient run returns. -/
theorem flatten_returns {schema : Schema} (hwhole : schema.WholeEntries) (service : Service) :
    Returns (flatten schema false service) :=
  (Context.foldlM_returns rfl hwhole service.methods {}).map

section Failing

variable {schema : Schema} {service : Service} {halt : Halt}

theorem failure_of_lenient (h : flatten schema false service = .error halt) :
    halt.failure = .shortEntry :=
  (flatten_stops schema service).shortEntry halt h

/-- A run stops at the entry of a map only if some entry is not whole. -/
theorem not_wholeEntries_of_shortEntry {strict : Bool}
    (h : flatten schema strict service = .error halt) (hshort : halt.failure = .shortEntry) :
    ¬schema.WholeEntries := by
  intro hwhole
  obtain ⟨result, hresult⟩ := flatten_returns hwhole service
  cases strict with
  | false =>
    rw [hresult] at h
    cases h
  | true =>
    have hstrict : flatten schema true service = stopped Result.events (.ok result) := by
      rw [← hresult]
      exact (flatten_stops schema service).strict_eq rfl
    rw [hstrict, stopped] at h
    cases hhalt : haltAt? (noted Result.events (.ok result)) with
    | none =>
      rw [hhalt] at h
      cases h
    | some found =>
      rw [hhalt] at h
      cases h
      obtain ⟨report, hcollision, -⟩ := exists_of_haltAt? hhalt
      rw [hcollision] at hshort
      cases hshort

end Failing

end Flattening

end ClientGen
