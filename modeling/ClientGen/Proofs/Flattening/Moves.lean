import ClientGen.Proofs.Flattening.Naming
import ClientGen.Proofs.References
import Mathlib.Data.List.Induction
import Mathlib.Logic.Relation

/-!
# Runs as sequences of moves

A run of `flatten` is a sequence of moves. `Advance` is a step of the walk: the topmost message is
finished, or its next field is walked. `Move` adds what happens between walks: an event is noted, a
call is appended, or a root of the service is entered. `Runs` is a run that returns, method by
method. `Runs.moves` shows that it is a sequence of moves from the empty state to a state without a
stack, so that a property of states holds at the end of a run, and anywhere on its way, once the
empty state has it and each move keeps it.
-/

set_option autoImplicit false
set_option relaxedAutoImplicit false

namespace ClientGen.Flattening

open Declaration Relation

/-- What walking a field does: the target it finds, the frame of a walk that begins now, and the
state after it. -/
inductive Targeting (c : Context) (s : State) (field : Field) (around : String) :
    Target → Option Frame → State → Prop
  | scalar (referent_eq : c.schema.referent? field = none) :
      Targeting c s field around .scalar none s
  | timestamp {type : NamedType} (referent_eq : c.schema.referent? field = some type)
      (hidden : type.isTimestamp = true) : Targeting c s field around .timestamp none s
  | named {type : NamedType} {name : String} {frame : Option Frame} {t : State}
      (referent_eq : c.schema.referent? field = some type) (shown : type.isTimestamp = false)
      (naming : Naming c s type (some around) name frame t) :
      Targeting c s field around (.named name) frame t

/-- A step of a walk. -/
inductive Advance (c : Context) (s : State) : State → Prop
  | finish {top : Frame} {rest : List Frame} (stack_eq : s.stack = top :: rest)
      (done : top.pending = []) :
      Advance c s { s with messages := s.messages ++ [top.record], stack := rest }
  | field {top : Frame} {rest : List Frame} {field subject : Field} {pending : List Field}
      {target : Target} {frame : Option Frame} {t : State} (stack_eq : s.stack = top :: rest)
      (pending_eq : top.pending = field :: pending)
      (subject_eq : c.schema.subject? field = some subject)
      (targeting : Targeting c s subject top.name target frame t) :
      Advance c s { t with
        stack := frame.toList ++ { top with
          done := top.done ++ [fieldRecord field (c.schema.entry? field) target]
          pending } :: rest }

/-- A move of a run on a service. -/
inductive Move (c : Context) (service : Service) (s : State) : State → Prop
  | note {event : Event} (quiet : ∀ report, event ≠ .collision report) :
      Move c service s (s.note event)
  | call {call : Record.Call} : Move c service s { s with calls := s.calls ++ [call] }
  | enter {message : Message} {name : String} {frame : Option Frame} {t : State}
      (idle : s.stack = []) (root : c.schema.Root service message)
      (naming : Naming c s (.message message) none name frame t) :
      Move c service s { t with stack := frame.toList ++ t.stack }
  | advance {t : State} (advance : Advance c s t) : Move c service s t

namespace Context

variable {c : Context} {s t : State}

/-! ### Inversion of the walk -/

theorem reach_targeting {field : Field} {around : String} {target : Target}
    {frame : Option Frame} (h : c.reach field around s = .ok (target, frame, t)) :
    Targeting c s field around target frame t := by
  unfold reach at h
  split at h
  · next hlink =>
    cases h
    exact .scalar (by simp [Schema.referent?, hlink])
  · next fullName hlink =>
    split at h
    · next hnone =>
      cases h
      exact .scalar (by simp [Schema.referent?, hlink, hnone])
    · next enum henum =>
      obtain ⟨⟨name, u⟩, hreach, hu⟩ := exists_of_map_eq_ok h
      cases hu
      exact .named (by simp [Schema.referent?, hlink, henum]) rfl (reachEnum_naming hreach)
  · next fullName hlink =>
    split at h
    · next hnone =>
      cases h
      exact .scalar (by simp [Schema.referent?, hlink, hnone])
    · next message hmessage =>
      have hreferent : c.schema.referent? field = some (.message message) := by
        simp [Schema.referent?, hlink, hmessage]
      split_ifs at h with htimestamp
      · cases h
        exact .timestamp hreferent (by simpa [NamedType.isTimestamp] using htimestamp)
      · obtain ⟨⟨name, frame, u⟩, hreach, hu⟩ := exists_of_map_eq_ok h
        cases hu
        exact .named hreferent (by simpa [NamedType.isTimestamp] using htimestamp)
          (reachMessage_naming hreach)

theorem walkField_targeting {field : Field} {around : String} {record : Record.Field}
    {frame : Option Frame} (h : c.walkField around field s = .ok (record, frame, t)) :
    ∃ subject target, c.schema.subject? field = some subject ∧
      Targeting c s subject around target frame t ∧
      record = fieldRecord field (c.schema.entry? field) target := by
  unfold walkField at h
  split at h
  · next hentry =>
    obtain ⟨⟨target, frame, u⟩, hreach, hu⟩ := exists_of_map_eq_ok h
    cases hu
    refine ⟨field, target, by simp [Schema.subject?, hentry], reach_targeting hreach, ?_⟩
    simp [Schema.entry?, hentry]
  · next entry hentry =>
    split at h
    · next key value rest hfields =>
      obtain ⟨⟨target, frame, u⟩, hreach, hu⟩ := exists_of_map_eq_ok h
      cases hu
      have hpair : c.schema.entry? field = some (key, value) := by
        simp [Schema.entry?, hentry, hfields]
      refine ⟨value, target, by simp [Schema.subject?, hentry, hpair],
        reach_targeting hreach, ?_⟩
      rw [hpair]
    · cases h

theorem step_advance (hstack : s.stack ≠ []) (h : c.step s = .ok t) : Advance c s t := by
  unfold step at h
  split at h
  · contradiction
  · next top rest hs =>
    split at h
    · next hpending =>
      cases h
      exact .finish hs hpending
    · next field pending hpending =>
      obtain ⟨⟨record, frame, u⟩, hwalk, hu⟩ := exists_of_map_eq_ok h
      cases hu
      obtain ⟨subject, target, hsubject, htargeting, rfl⟩ := walkField_targeting hwalk
      exact .field hs hpending hsubject htargeting

theorem drain_idle (hidle : s.stack = []) : c.drain s = .ok s := by
  rw [drain, dif_pos hidle]

theorem drain_busy (hstack : s.stack ≠ []) : c.drain s = c.step s >>= c.drain := by
  rw [drain, dif_neg hstack]
  split
  · next halt hstep =>
    rw [hstep]
    rfl
  · next u hstep =>
    rw [hstep]
    rfl

/-- Draining advances until no message is being walked. -/
theorem drain_advances (h : c.drain s = .ok t) :
    ReflTransGen (Advance c) s t ∧ t.stack = [] := by
  induction s using drain.induct c with
  | case1 s hidle =>
    rw [drain_idle hidle] at h
    cases h
    exact ⟨.refl, hidle⟩
  | case2 s hstack halt hstep =>
    rw [drain_busy hstack, hstep] at h
    cases h
  | case3 s hstack u hstep ih =>
    rw [drain_busy hstack, hstep] at h
    obtain ⟨hadvances, hidle⟩ := ih h
    exact ⟨.head (step_advance hstack hstep) hadvances, hidle⟩

/-! ### Inversion of a run -/

/-- Walking a message names it, and then advances until no message is being walked. -/
theorem walkMessage_naming {message : Message} (h : c.walkMessage message s = .ok t) :
    ∃ name frame u, Naming c s (.message message) none name frame u ∧
      ReflTransGen (Advance c) { u with stack := frame.toList ++ u.stack } t ∧ t.stack = [] := by
  obtain ⟨⟨name, frame, u⟩, hreach, hdrain⟩ := exists_of_bind_eq_ok h
  exact ⟨name, frame, u, reachMessage_naming hreach, drain_advances hdrain⟩

theorem walkMessage_moves {service : Service} {message : Message}
    (hroot : c.schema.Root service message) (hidle : s.stack = [])
    (h : c.walkMessage message s = .ok t) : ReflTransGen (Move c service) s t ∧ t.stack = [] := by
  obtain ⟨name, frame, u, hnaming, hadvances, hstack⟩ := walkMessage_naming h
  have hmoves : ReflTransGen (Move c service) { u with stack := frame.toList ++ u.stack } t :=
    ReflTransGen.mono (fun _ _ ↦ .advance) _ _ hadvances
  exact ⟨.head (.enter hidle hroot hnaming) hmoves, hstack⟩

/-- The call of a method whose input and output are known. -/
def callRecord (method : Method) (route : Route) (input output : Message) : Record.Call where
  name := method.name
  verb := route.verb.text
  path := route.path
  request := input.name
  response := output.name
  comment := method.comment

/-- The event of a method that is left out. -/
def skipEvent (c : Context) (method : Method) : Event :=
  if method.clientStreaming || method.serverStreaming then .streaming c.service method.name
  else .unrouted c.service method.name

theorem skipEvent_ne_collision (c : Context) (method : Method) (report : Report) :
    c.skipEvent method ≠ .collision report := by
  unfold skipEvent
  split_ifs <;> simp

theorem walkMethod_of_unusable {method : Method} (h : method.route? = none) :
    c.walkMethod s method = .ok (s.note (c.skipEvent method)) := by
  unfold Method.route? at h
  unfold walkMethod skipEvent
  split_ifs at h ⊢ with hstreaming
  · rfl
  · rw [h]

theorem walkMethod_of_usable {method : Method} {route : Route} {input output : Message}
    (hroute : method.route? = some route)
    (hinput : c.schema.message? method.input = some input)
    (houtput : c.schema.message? method.output = some output) :
    c.walkMethod s method = c.walkRoute method route input output s := by
  unfold Method.route? at hroute
  unfold walkMethod
  split_ifs at hroute ⊢ with hstreaming
  rw [hroute, hinput, houtput]

/-- A run over methods, from the empty state. -/
def run (c : Context) (methods : List Method) : Except Halt State :=
  methods.foldlM c.walkMethod {}

theorem run_concat (methods : List Method) (method : Method) :
    c.run (methods ++ [method]) = c.run methods >>= fun s ↦ c.walkMethod s method := by
  rw [run, List.foldlM_append]
  refine bind_congr fun s ↦ ?_
  rw [List.foldlM_cons]
  cases c.walkMethod s method <;> rfl

end Context

/-- A run that returns, method by method: one that is not usable leaves its event, and any other
walks its input, then its output, and appends its call. -/
inductive Runs (c : Context) : List Method → State → Prop
  | start : Runs c [] {}
  | skip {before : List Method} {method : Method} {s : State} (runs : Runs c before s)
      (unusable : method.route? = none) :
      Runs c (before ++ [method]) (s.note (c.skipEvent method))
  | walk {before : List Method} {method : Method} {route : Route} {input output : Message}
      {s t u : State} (runs : Runs c before s) (route_eq : method.route? = some route)
      (input_eq : c.schema.message? method.input = some input)
      (output_eq : c.schema.message? method.output = some output)
      (input_walked : c.walkMessage input s = .ok t)
      (output_walked : c.walkMessage output t = .ok u) :
      Runs c (before ++ [method])
        { u with calls := u.calls ++ [Context.callRecord method route input output] }

namespace Runs

variable {c : Context} {methods : List Method} {s : State}

theorem eq_ok (h : Runs c methods s) : c.run methods = .ok s := by
  induction h with
  | start => rfl
  | skip _ hunusable ih =>
    rw [Context.run_concat, ih]
    exact Context.walkMethod_of_unusable hunusable
  | walk _ hroute hinput houtput hwalkInput hwalkOutput ih =>
    rw [Context.run_concat, ih]
    refine (Context.walkMethod_of_usable hroute hinput houtput).trans ?_
    rw [Context.walkRoute, hwalkInput]
    change c.walkMessage _ _ >>= _ = _
    rw [hwalkOutput]
    rfl

/-- Assumes: the inputs and the outputs of the methods have owners. -/
theorem of_eq_ok (hlinked : ∀ method ∈ methods, c.schema.MethodLinked method)
    (h : c.run methods = .ok s) : Runs c methods s := by
  induction methods using List.reverseRecOn generalizing s with
  | nil =>
    cases h
    exact .start
  | append_singleton before last ih =>
    rw [Context.run_concat] at h
    obtain ⟨u, hu, hlast⟩ := exists_of_bind_eq_ok h
    have hbefore := ih (fun method hmethod ↦ hlinked method (List.mem_append_left _ hmethod)) hu
    cases hroute : last.route? with
    | none =>
      rw [Context.walkMethod_of_unusable hroute] at hlast
      cases hlast
      exact hbefore.skip hroute
    | some route =>
      obtain ⟨hinput, houtput⟩ := hlinked last (by simp)
      obtain ⟨input, hinput⟩ := Option.isSome_iff_exists.mp hinput
      obtain ⟨output, houtput⟩ := Option.isSome_iff_exists.mp houtput
      rw [Context.walkMethod_of_usable hroute hinput houtput] at hlast
      obtain ⟨v, hv, hlast⟩ := exists_of_bind_eq_ok hlast
      obtain ⟨w, hw, hlast⟩ := exists_of_bind_eq_ok hlast
      cases hlast
      exact hbefore.walk hroute hinput houtput hv hw

/-- Assumes: the methods belong to the service. A run is a sequence of moves, and ends without a
stack. -/
theorem moves {service : Service} (h : Runs c methods s)
    (hmem : ∀ method ∈ methods, method ∈ service.methods) :
    ReflTransGen (Move c service) {} s ∧ s.stack = [] := by
  induction h with
  | start => exact ⟨.refl, rfl⟩
  | @skip before method s _ hunusable ih =>
    obtain ⟨hmoves, hidle⟩ := ih fun other hother ↦ hmem other (List.mem_append_left _ hother)
    exact ⟨hmoves.tail (.note (c.skipEvent_ne_collision method)), hidle⟩
  | @walk before method route input output s t u _ hroute hinput houtput hwalkInput
      hwalkOutput ih =>
    obtain ⟨hmoves, hidle⟩ := ih fun other hother ↦ hmem other (List.mem_append_left _ hother)
    have hservice := hmem method (by simp)
    have husable : method.route?.isSome := by simp [hroute]
    obtain ⟨hmovesInput, hidleInput⟩ :=
      Context.walkMessage_moves (.input hservice husable hinput) hidle hwalkInput
    obtain ⟨hmovesOutput, hidleOutput⟩ :=
      Context.walkMessage_moves (.output hservice husable houtput) hidleInput hwalkOutput
    exact ⟨((hmoves.trans hmovesInput).trans hmovesOutput).tail .call, hidleOutput⟩

end Runs

/-- A flattened service is the result of a run over its methods. -/
theorem exists_run_of_flatten {schema : Schema} {strict : Bool} {service : Service}
    {result : Result} (h : flatten schema strict service = .ok result) :
    ∃ s, Context.run ⟨schema, service.name, strict⟩ service.methods = .ok s ∧
      s.result service = result :=
  exists_of_map_eq_ok h

end ClientGen.Flattening
