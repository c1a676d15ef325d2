import ClientGen.Proofs.Flattening.Counting

/-!
# What later methods leave alone

A run only ever adds: to the table of flat names, to the records and to the events (`Grows`). Each
step of a walk does, so a walk does, and a run from any state on. A run over methods with others
behind them therefore has what the run over the first ones has in front of what the others bring
(`flatten_append`). In `Depot` the other methods bring the collisions.
-/

set_option autoImplicit false
set_option relaxedAutoImplicit false

namespace ClientGen

open Declaration Flattening Relation

namespace Flattening

/-- What a state holds stands in front of what a later one holds. -/
structure Grows (s t : State) : Prop where
  given : s.given <+: t.given
  visits : s.visits <+: t.visits
  calls : s.calls <+: t.calls
  messages : s.messages <+: t.messages
  enums : s.enums <+: t.enums
  events : s.events <+: t.events

namespace Grows

variable {s t u : State}

theorem refl (s : State) : Grows s s :=
  ⟨List.prefix_rfl, List.prefix_rfl, List.prefix_rfl, List.prefix_rfl, List.prefix_rfl,
    List.prefix_rfl⟩

theorem trans (h : Grows s t) (hmore : Grows t u) : Grows s u where
  given := h.given.trans hmore.given
  visits := h.visits.trans hmore.visits
  calls := h.calls.trans hmore.calls
  messages := h.messages.trans hmore.messages
  enums := h.enums.trans hmore.enums
  events := h.events.trans hmore.events

/-- A stack does not count. -/
theorem stack (h : Grows s t) (stack : List Frame) : Grows s { t with stack := stack } :=
  ⟨h.given, h.visits, h.calls, h.messages, h.enums, h.events⟩

theorem note (s : State) (event : Event) : Grows s (s.note event) :=
  { refl s with events := List.prefix_append _ _ }

/-- A flat name stays. -/
theorem flatName? (h : Grows s t) {fullName name : String}
    (hname : s.flatName? fullName = some name) : t.flatName? fullName = some name :=
  lookup_of_grows h.given hname

/-- The warnings stay in front. -/
theorem warnings (h : Grows s t) : warnings s.events <+: warnings t.events := by
  obtain ⟨more, hmore⟩ := h.events
  rw [← hmore, warnings_append]
  exact List.prefix_append _ _

end Grows

/-! ### Steps -/

section Steps

variable {c : Context} {s t : State}

theorem Naming.grows {type : NamedType} {around : Option String} {name : String}
    {frame : Option Frame} (h : Naming c s type around name frame t) : Grows s t := by
  have hgiven := h.given_grows
  cases h with
  | known => exact .refl s
  | message =>
    exact { Grows.refl s with
      given := hgiven
      visits := List.prefix_append _ _
      events := List.prefix_append _ _ }
  | sharedMessage => exact { Grows.refl s with given := hgiven, events := List.prefix_append _ _ }
  | enum =>
    exact { Grows.refl s with
      given := hgiven
      enums := List.prefix_append _ _
      events := List.prefix_append _ _ }
  | sharedEnum => exact { Grows.refl s with given := hgiven, events := List.prefix_append _ _ }

theorem Targeting.grows {field : Field} {around : String} {target : Target}
    {frame : Option Frame} (h : Targeting c s field around target frame t) : Grows s t := by
  cases h with
  | scalar => exact .refl s
  | timestamp => exact .refl s
  | named _ _ hnaming => exact hnaming.grows

theorem Advance.grows (h : Advance c s t) : Grows s t := by
  cases h with
  | finish => exact { Grows.refl s with messages := List.prefix_append _ _ }
  | field _ _ _ htargeting => exact htargeting.grows.stack _

theorem Move.grows {service : Service} (h : Move c service s t) : Grows s t := by
  cases h with
  | note => exact .note s _
  | call => exact { Grows.refl s with calls := List.prefix_append _ _ }
  | enter _ _ hnaming => exact hnaming.grows.stack _
  | advance hadvance => exact hadvance.grows

theorem grows_of_advances (h : ReflTransGen (Advance c) s t) : Grows s t := by
  induction h with
  | refl => exact .refl s
  | tail _ hadvance ih => exact ih.trans hadvance.grows

namespace Context

theorem walkMessage_grows {message : Message} (h : c.walkMessage message s = .ok t) :
    Grows s t := by
  obtain ⟨name, frame, u, hnaming, hadvances, -⟩ := walkMessage_naming h
  exact (hnaming.grows.stack _).trans (grows_of_advances hadvances)

theorem walkRoute_grows {method : Method} {route : Route} {input output : Message}
    (h : c.walkRoute method route input output s = .ok t) : Grows s t := by
  obtain ⟨u, hinput, h⟩ := exists_of_bind_eq_ok h
  obtain ⟨v, houtput, h⟩ := exists_of_bind_eq_ok h
  cases h
  have hwalks : Grows s v := (walkMessage_grows hinput).trans (walkMessage_grows houtput)
  exact hwalks.trans { Grows.refl v with calls := List.prefix_append _ _ }

theorem walkMethod_grows {method : Method} (h : c.walkMethod s method = .ok t) : Grows s t := by
  unfold walkMethod at h
  split at h
  · cases h
    exact .note s _
  · split at h
    · cases h
      exact .note s _
    · split at h
      · exact walkRoute_grows h
      · cases h
        exact .refl s

/-- Whatever methods a run goes on with, it only adds. -/
theorem foldlM_grows {methods : List Method} (h : methods.foldlM c.walkMethod s = .ok t) :
    Grows s t := by
  induction methods generalizing s with
  | nil =>
    cases h
    exact .refl _
  | cons method rest ih =>
    rw [List.foldlM_cons] at h
    obtain ⟨u, hmethod, hrest⟩ := exists_of_bind_eq_ok h
    exact (walkMethod_grows hmethod).trans (ih hrest)

/-- A run over methods with more behind them is a run over the first ones that goes on. -/
theorem exists_of_run_append {methods more : List Method} (h : c.run (methods ++ more) = .ok t) :
    ∃ s, c.run methods = .ok s ∧ more.foldlM c.walkMethod s = .ok t := by
  unfold run at h
  rw [List.foldlM_append] at h
  exact exists_of_bind_eq_ok h

end Context

end Steps

end Flattening

/-- Assumes: a service with further methods behind its own is flattened. Then so is the service
without them, and its calls, messages, enums and reports stand in front of those of the longer one.
Each type that has a flat name keeps it. -/
theorem flatten_append {schema : Schema} {strict : Bool} {service : Service} {more : List Method}
    {result : Result}
    (hresult : flatten schema strict { service with methods := service.methods ++ more } =
      .ok result) :
    ∃ s t, Context.run ⟨schema, service.name, strict⟩ service.methods = .ok s ∧
      Context.run ⟨schema, service.name, strict⟩ (service.methods ++ more) = .ok t ∧
      t.result { service with methods := service.methods ++ more } = result ∧
      flatten schema strict service = .ok (s.result service) ∧
      s.calls <+: result.service.calls ∧ s.messages <+: result.service.messages ∧
      s.enums <+: result.service.enums ∧ s.visits <+: result.visits ∧
      s.events <+: result.events ∧ warnings s.events <+: warnings result.events ∧
      ∀ fullName name, s.flatName? fullName = some name → t.flatName? fullName = some name := by
  obtain ⟨t, ht, rfl⟩ := exists_run_of_flatten hresult
  obtain ⟨s, hs, hmore⟩ := Context.exists_of_run_append ht
  have hgrows : Grows s t := Context.foldlM_grows hmore
  have hfirst : flatten schema strict service = .ok (s.result service) := by
    change (Context.run ⟨schema, service.name, strict⟩ service.methods).map _ = _
    rw [hs]
    rfl
  exact ⟨s, t, hs, ht, rfl, hfirst, hgrows.calls, hgrows.messages, hgrows.enums, hgrows.visits,
    hgrows.events, hgrows.warnings, fun _ _ ↦ hgrows.flatName?⟩

namespace Depot

/-- The depot before boxes are stored: only former items are found. -/
def finding : Service :=
  { service with methods := [
      ⟨"Find", ".former.Item", ".former.Item", false, false, "", some ⟨some (.get "/items")⟩⟩] }

/-- The records of the depot with both methods. -/
def grown : Record.Service where
  name := "Depot"
  comment := ""
  calls := [
    ⟨"Find", "GET", "/items", "Item", "Item", ""⟩, ⟨"Store", "PUT", "/boxes", "Box", "Box", ""⟩]
  messages := flat.messages
  enums := flat.enums

/-- The result of flattening the depot with both methods. -/
def grownResult : Result :=
  ⟨grown, [⟨"Item", ".former.Item", 0⟩, ⟨"Box", ".depot.Box", 1⟩], [
    .collision (.shared .message "Item" "Depot" ".former.Item" ".depot.Item"),
    .collision (.mixed "Item" "Depot" ".former.Item" ".kinds.Item")]⟩

theorem flatten_grown_eq : flatten schema false
    { finding with methods := finding.methods ++ service.methods } = .ok grownResult := by
  simp only [flatten, finding, service, List.cons_append, List.nil_append, List.foldlM_cons,
    List.foldlM_nil, Context.walkMethod, Context.walkRoute, Context.walkMessage, Context.drain_eq]
  decide +kernel

theorem finding_stays :
    ∃ s t, Context.run ⟨schema, "Depot", false⟩ finding.methods = .ok s ∧
      Context.run ⟨schema, "Depot", false⟩ (finding.methods ++ service.methods) = .ok t ∧
      flatten schema false finding = .ok (s.result finding) ∧ s.calls <+: grown.calls ∧
      s.messages <+: grown.messages ∧ s.enums <+: grown.enums ∧
      ∀ fullName name, s.flatName? fullName = some name → t.flatName? fullName = some name := by
  obtain ⟨s, t, hs, ht, -, hfirst, hcalls, hmessages, henums, -, -, -, hnames⟩ :=
    flatten_append flatten_grown_eq
  exact ⟨s, t, hs, ht, hfirst, hcalls, hmessages, henums, hnames⟩

end Depot

end ClientGen
