import ClientGen.Proofs.Flattening.Moves
import ClientGen.Run

/-!
# Strict runs

A strict run does what a lenient run does until the first collision, and stops there. `haltAt?` is
how a run stops that would note given events, `stopped` an outcome with that stop. `Stops` relates
what a function does in a strict run to what it does in a lenient one, from events without a
collision. It composes (`Stops.bind`), since events are only ever added: what a lenient run does
after a collision does not undo the stop. So it holds of every function of the walk, each by its own
cases, and by induction of a whole run.
-/

set_option autoImplicit false
set_option relaxedAutoImplicit false

namespace ClientGen

open Declaration Flattening

namespace Flattening

/-- What a run logs as a warning. -/
def warnings (events : List Event) : List LogEntry :=
  (events.map Event.entry).filter fun entry ↦ entry.level = .warning

/-- How a strict run stops that would note these events: at the first collision. -/
def haltAt? : List Event → Option Halt
  | [] => none
  | event :: rest => match event with
    | .collision report => some ⟨.collision report, []⟩
    | _ => (haltAt? rest).map fun halt ↦ ⟨halt.failure, event :: halt.events⟩

/-- The events of an outcome. -/
def noted {α : Type} (events : α → List Event) : Except Halt α → List Event
  | .ok a => events a
  | .error halt => halt.events

/-- An outcome of a lenient run, stopped at its first collision. -/
def stopped {α : Type} (events : α → List Event) (outcome : Except Halt α) : Except Halt α :=
  match haltAt? (noted events outcome) with
  | some halt => .error halt
  | none => outcome

/-! ### The first collision -/

section First

variable {events later : List Event} {event : Event} {halt : Halt}

theorem haltAt?_of_grows (hgrows : events <+: later) (h : haltAt? events = some halt) :
    haltAt? later = some halt := by
  obtain ⟨more, rfl⟩ := hgrows
  induction events generalizing halt with
  | nil => cases h
  | cons event rest ih =>
    cases event with
    | collision report => exact h
    | streaming service method | unrouted service method =>
      obtain ⟨first, hfirst, rfl⟩ := Option.map_eq_some_iff.mp h
      exact Option.map_eq_some_iff.mpr ⟨first, ih hfirst, rfl⟩

theorem haltAt?_concat_quiet (hquiet : ∀ report, event ≠ .collision report)
    (h : haltAt? events = none) : haltAt? (events ++ [event]) = none := by
  induction events with
  | nil =>
    cases event with
    | collision report => exact absurd rfl (hquiet report)
    | streaming | unrouted => rfl
  | cons first rest ih =>
    cases first with
    | collision report => cases h
    | streaming | unrouted => exact Option.map_eq_none_iff.mpr (ih (Option.map_eq_none_iff.mp h))

theorem haltAt?_concat_collision (report : Report) (h : haltAt? events = none) :
    haltAt? (events ++ [.collision report]) = some ⟨.collision report, events⟩ := by
  induction events with
  | nil => rfl
  | cons first rest ih =>
    cases first with
    | collision report => cases h
    | streaming | unrouted =>
      exact Option.map_eq_some_iff.mpr ⟨_, ih (Option.map_eq_none_iff.mp h), rfl⟩

/-- A stop is at the first warning, after the events before it. -/
theorem exists_of_haltAt? (h : haltAt? events = some halt) :
    ∃ report, halt.failure = .collision report ∧
      halt.events ++ [.collision report] <+: events ∧
      (warnings events).head? = some ⟨.warning, report.message⟩ := by
  induction events generalizing halt with
  | nil => cases h
  | cons event rest ih =>
    cases event with
    | collision report =>
      cases h
      exact ⟨report, rfl, List.prefix_append [_] rest, rfl⟩
    | streaming service method | unrouted service method =>
      obtain ⟨first, hfirst, rfl⟩ := Option.map_eq_some_iff.mp h
      obtain ⟨report, hfailure, hprefix, hwarning⟩ := ih hfirst
      exact ⟨report, hfailure, List.cons_prefix_cons.mpr ⟨rfl, hprefix⟩, hwarning⟩

/-- A run stops just if it would log a warning. -/
theorem haltAt?_eq_none_iff : haltAt? events = none ↔ warnings events = [] := by
  constructor
  · intro h
    induction events with
    | nil => rfl
    | cons event rest ih =>
      cases event with
      | collision report => cases h
      | streaming | unrouted => exact ih (Option.map_eq_none_iff.mp h)
  · intro h
    cases hhalt : haltAt? events with
    | none => rfl
    | some halt =>
      obtain ⟨report, -, -, hwarning⟩ := exists_of_haltAt? hhalt
      simp [h] at hwarning

end First

section Outcomes

variable {α : Type} {events : α → List Event} {outcome : Except Halt α}

/-- Without a warning nothing is stopped. -/
theorem stopped_of_quiet (h : warnings (noted events outcome) = []) :
    stopped events outcome = outcome := by
  rw [stopped, haltAt?_eq_none_iff.mpr h]

/-- With a warning the outcome is stopped at the first. -/
theorem stopped_of_warning {first : LogEntry} {later : List LogEntry}
    (h : warnings (noted events outcome) = first :: later) :
    ∃ report before, stopped events outcome = .error ⟨.collision report, before⟩ ∧
      before ++ [.collision report] <+: noted events outcome ∧
      first = ⟨.warning, report.message⟩ := by
  cases hhalt : haltAt? (noted events outcome) with
  | none =>
    rw [haltAt?_eq_none_iff.mp hhalt] at h
    cases h
  | some halt =>
    obtain ⟨report, hfailure, hprefix, hwarning⟩ := exists_of_haltAt? hhalt
    obtain ⟨failure, before⟩ := halt
    obtain rfl : failure = .collision report := hfailure
    refine ⟨report, before, by rw [stopped, hhalt], hprefix, ?_⟩
    rw [h] at hwarning
    exact Option.some.inj hwarning

theorem stopped_eq_ok_iff {a : α} :
    stopped events outcome = .ok a ↔ outcome = .ok a ∧ warnings (events a) = [] := by
  constructor
  · intro h
    cases hwarnings : warnings (noted events outcome) with
    | nil =>
      rw [stopped_of_quiet hwarnings] at h
      subst h
      exact ⟨rfl, hwarnings⟩
    | cons first later =>
      obtain ⟨report, before, hstopped, -, -⟩ := stopped_of_warning hwarnings
      rw [hstopped] at h
      cases h
  · rintro ⟨rfl, hquiet⟩
    exact stopped_of_quiet hquiet

/-- A run that returns is stopped at a collision just if it logs a warning. -/
theorem exists_stopped_collision_iff {a : α} :
    (∃ report before, stopped events (.ok a) = .error ⟨.collision report, before⟩) ↔
      warnings (events a) ≠ [] := by
  constructor
  · rintro ⟨report, before, hstopped⟩ hquiet
    have hok : stopped events (.ok a) = .ok a := stopped_eq_ok_iff.mpr ⟨rfl, hquiet⟩
    rw [hok] at hstopped
    cases hstopped
  · intro hwarned
    obtain ⟨first, later, hwarnings⟩ := List.exists_cons_of_ne_nil hwarned
    change warnings (noted events (.ok a)) = first :: later at hwarnings
    obtain ⟨report, before, hstopped, -, -⟩ := stopped_of_warning hwarnings
    exact ⟨report, before, hstopped⟩

end Outcomes

/-- What a function does in a strict run is what it does in a lenient run, stopped at the first
collision, if there was none among the events so far. A lenient run keeps those events, and fails
only at a map entry that is too short. -/
structure Stops {α : Type} (before : List Event) (events : α → List Event)
    (strict lenient : Except Halt α) : Prop where
  grows : before <+: noted events lenient
  strict_eq : haltAt? before = none → strict = stopped events lenient
  shortEntry : ∀ halt, lenient = .error halt → halt.failure = .shortEntry

namespace Stops

variable {α β : Type} {before : List Event} {events : α → List Event} {events' : β → List Event}
  {x y : Except Halt α}

theorem ok {a : α} (h : events a = before) : Stops before events (.ok a) (.ok a) where
  grows := h ▸ List.prefix_rfl
  strict_eq := by
    intro hnone
    rw [stopped, noted, h, hnone]
  shortEntry := by simp

theorem halt (s : State) : Stops s.events events (s.halt .shortEntry) (s.halt .shortEntry) where
  grows := List.prefix_rfl
  strict_eq := by
    intro hnone
    rw [State.halt, stopped, noted, hnone]
  shortEntry := by
    intro halt herror
    cases herror
    rfl

theorem note {event : Event} (s : State) (hquiet : ∀ report, event ≠ .collision report) :
    Stops s.events State.events (.ok (s.note event)) (.ok (s.note event)) where
  grows := List.prefix_append _ _
  strict_eq := by
    intro hnone
    rw [stopped, noted, State.note, haltAt?_concat_quiet hquiet hnone]
  shortEntry := nofun

theorem map {f : α → β} (h : Stops before events x y) (hf : ∀ a, events' (f a) = events a) :
    Stops before events' (x.map f) (y.map f) := by
  have hnoted : noted events' (y.map f) = noted events y := by
    cases y with
    | error halt => rfl
    | ok a => exact hf a
  refine ⟨hnoted ▸ h.grows, fun hnone ↦ ?_, fun halt herror ↦ ?_⟩
  · rw [h.strict_eq hnone, stopped, stopped, hnoted]
    cases haltAt? (noted events y) with
    | none => rfl
    | some halt => rfl
  · cases y with
    | error =>
      cases herror
      exact h.shortEntry _ rfl
    | ok => cases herror

/-- Whatever follows a stop in a lenient run leaves the stop as it is. -/
theorem bind {f g : α → Except Halt β} (h : Stops before events x y)
    (hnext : ∀ a, y = .ok a → Stops (events a) events' (f a) (g a)) :
    Stops before events' (x >>= f) (y >>= g) := by
  cases y with
  | error halt =>
    refine ⟨h.grows, fun hnone ↦ ?_, fun other herror ↦ ?_⟩
    · rw [h.strict_eq hnone]
      change (stopped events (.error halt) >>= f) = stopped events' (.error halt)
      unfold stopped
      rw [noted, noted]
      cases haltAt? halt.events with
      | none => rfl
      | some halt => rfl
    · cases herror
      exact h.shortEntry halt rfl
  | ok a =>
    have hlater := hnext a rfl
    refine ⟨h.grows.trans hlater.grows, fun hnone ↦ ?_, hlater.shortEntry⟩
    rw [h.strict_eq hnone]
    change (stopped events (.ok a) >>= f) = stopped events' (g a)
    unfold stopped
    rw [noted]
    cases hhalt : haltAt? (events a) with
    | none => exact hlater.strict_eq hhalt
    | some halt =>
      rw [haltAt?_of_grows hlater.grows hhalt]
      rfl

end Stops

namespace Context

/-- The context of a strict run. -/
def strictly (c : Context) : Context :=
  { c with strict := true }

/-- The context of a lenient run. -/
def leniently (c : Context) : Context :=
  { c with strict := false }

variable (c : Context) (s : State)

@[simp]
theorem strictly_schema : c.strictly.schema = c.schema :=
  rfl

@[simp]
theorem leniently_schema : c.leniently.schema = c.schema :=
  rfl

theorem report_stops {before : List Event} (report : Report) (h : s.events = before) :
    Stops before State.events (c.strictly.report report s) (c.leniently.report report s) where
  grows := h ▸ List.prefix_append _ _
  strict_eq := by
    intro hnone
    rw [← h] at hnone
    change _ = stopped State.events (.ok (s.note (.collision report)))
    rw [stopped, noted, State.note, haltAt?_concat_collision report hnone]
    rfl
  shortEntry := nofun

theorem claimMessage_stops (fullName name : String) :
    Stops s.events State.events (c.strictly.claimMessage fullName name s)
      (c.leniently.claimMessage fullName name s) := by
  unfold claimMessage
  cases s.visit? name with
  | some visit => exact c.report_stops _ _ rfl
  | none =>
    dsimp only
    split
    · exact c.report_stops _ _ rfl
    · exact .ok rfl

theorem claimEnum_stops (fullName name : String) :
    Stops s.events State.events (c.strictly.claimEnum fullName name s)
      (c.leniently.claimEnum fullName name s) := by
  unfold claimEnum
  cases s.enumOwner? name with
  | some owner => exact c.report_stops _ _ rfl
  | none =>
    dsimp only
    split
    · exact c.report_stops _ _ rfl
    · exact .ok rfl

theorem reachMessage_stops (message : Message) (around : Option String) :
    Stops s.events (fun (_, _, t) ↦ t.events) (c.strictly.reachMessage message around s)
      (c.leniently.reachMessage message around s) := by
  unfold reachMessage
  split
  · exact .ok rfl
  · exact (c.claimMessage_stops s _ _).map fun _ ↦ rfl

theorem reachEnum_stops (enum : Enum) (around : Option String) :
    Stops s.events (fun (_, t) ↦ t.events) (c.strictly.reachEnum enum around s)
      (c.leniently.reachEnum enum around s) := by
  unfold reachEnum
  split
  · exact .ok rfl
  · exact (c.claimEnum_stops s _ _).map fun _ ↦ rfl

theorem reach_stops (field : Field) (around : String) :
    Stops s.events (fun (_, _, t) ↦ t.events) (c.strictly.reach field around s)
      (c.leniently.reach field around s) := by
  unfold reach
  split
  · exact .ok rfl
  · rw [strictly_schema, leniently_schema]
    split
    · exact .ok rfl
    · exact (c.reachEnum_stops s _ _).map fun _ ↦ rfl
  · rw [strictly_schema, leniently_schema]
    split
    · exact .ok rfl
    · split
      · exact .ok rfl
      · exact (c.reachMessage_stops s _ _).map fun _ ↦ rfl

theorem walkField_stops (around : String) (field : Field) :
    Stops s.events (fun (_, _, t) ↦ t.events) (c.strictly.walkField around field s)
      (c.leniently.walkField around field s) := by
  unfold walkField
  rw [strictly_schema, leniently_schema]
  split
  · exact (c.reach_stops s _ _).map fun _ ↦ rfl
  · split
    · exact (c.reach_stops s _ _).map fun _ ↦ rfl
    · exact .halt s

theorem step_stops : Stops s.events State.events (c.strictly.step s) (c.leniently.step s) := by
  unfold step
  split
  · exact .ok rfl
  · split
    · exact .ok rfl
    · exact (c.walkField_stops s _ _).map fun _ ↦ rfl

theorem drain_stops : Stops s.events State.events (c.strictly.drain s) (c.leniently.drain s) := by
  induction s using drain.induct c.leniently with
  | case1 s hidle =>
    rw [drain_idle hidle, drain_idle hidle]
    exact .ok rfl
  | case2 s hstack halt hstep =>
    rw [drain_busy hstack, drain_busy hstack]
    refine (c.step_stops s).bind fun t ht ↦ ?_
    rw [hstep] at ht
    cases ht
  | case3 s hstack u hstep ih =>
    rw [drain_busy hstack, drain_busy hstack]
    refine (c.step_stops s).bind fun t ht ↦ ?_
    rw [hstep] at ht
    cases ht
    exact ih

theorem walkMessage_stops (message : Message) :
    Stops s.events State.events (c.strictly.walkMessage message s)
      (c.leniently.walkMessage message s) := by
  refine (c.reachMessage_stops s message none).bind ?_
  rintro ⟨name, frame, t⟩ -
  exact c.drain_stops { t with stack := frame.toList ++ t.stack }

theorem walkRoute_stops (method : Method) (route : Route) (input output : Message) :
    Stops s.events State.events (c.strictly.walkRoute method route input output s)
      (c.leniently.walkRoute method route input output s) := by
  refine (c.walkMessage_stops s input).bind fun t _ ↦ ?_
  refine (c.walkMessage_stops t output).bind fun u _ ↦ ?_
  exact .ok rfl

theorem walkMethod_stops (method : Method) :
    Stops s.events State.events (c.strictly.walkMethod s method)
      (c.leniently.walkMethod s method) := by
  unfold walkMethod
  split
  · exact .note s nofun
  · split
    · exact .note s nofun
    · rw [strictly_schema, leniently_schema]
      split
      · exact c.walkRoute_stops s _ _ _ _
      · exact .ok rfl

theorem foldlM_stops (methods : List Method) :
    Stops s.events State.events (methods.foldlM c.strictly.walkMethod s)
      (methods.foldlM c.leniently.walkMethod s) := by
  induction methods generalizing s with
  | nil => exact .ok rfl
  | cons method rest ih =>
    rw [List.foldlM_cons, List.foldlM_cons]
    exact (c.walkMethod_stops s method).bind fun t _ ↦ ih t

end Context

/-- What a strict run comes to is what a lenient run comes to, stopped at its first collision. -/
theorem flatten_stops (schema : Schema) (service : Service) :
    Stops [] Result.events (flatten schema true service) (flatten schema false service) :=
  (Context.foldlM_stops ⟨schema, service.name, false⟩ {} service.methods).map fun _ ↦ rfl

end Flattening

/-- A strict run returns what the lenient run returns, if that logs no warning. If the lenient run
logs one, the strict run fails with the text of the first, after the same events. And if the lenient
run fails before any warning, which it does only at a map entry that is too short, then so does the
strict run. -/
theorem flatten_strict (schema : Schema) (service : Service) :
    (∀ result, flatten schema true service = .ok result ↔
      flatten schema false service = .ok result ∧ warnings result.events = []) ∧
    (∀ first later,
      warnings (noted Result.events (flatten schema false service)) = first :: later →
        ∃ report before, flatten schema true service = .error ⟨.collision report, before⟩ ∧
          before ++ [.collision report] <+: noted Result.events (flatten schema false service) ∧
          (Run.Failure.flattening (.collision report)).message = first.text) ∧
    (∀ halt, flatten schema false service = .error halt → halt.failure = .shortEntry ∧
      (warnings halt.events = [] → flatten schema true service = .error halt)) := by
  have hstops := flatten_stops schema service
  have hstrict : flatten schema true service =
      stopped Result.events (flatten schema false service) := hstops.strict_eq rfl
  rw [hstrict]
  refine ⟨fun result ↦ stopped_eq_ok_iff, ?_, ?_⟩
  · intro first later hwarnings
    obtain ⟨report, before, hstopped, hprefix, rfl⟩ := stopped_of_warning hwarnings
    exact ⟨report, before, hstopped, hprefix, rfl⟩
  · intro halt hhalt
    refine ⟨hstops.shortEntry halt hhalt, fun hquiet ↦ ?_⟩
    rw [hhalt]
    exact stopped_of_quiet hquiet

end ClientGen
