import ClientGen.Proofs.Flattening.Calls
import ClientGen.Proofs.Route
import ClientGen.Text.Case

/-!
# Methods that are left out

A method that streams, or whose rule has none of the five verbs, is left out of a run: it leaves an
event, and no other trace. `State.quiet` is a state without such events. Nothing in a run looks at
the events so far, so every function of the walk does on a quiet state what it does on any
(`reachMessage_quiet`, and so on up to `walkRoute_quiet`). By induction on the methods, a run over
all methods is, but for these events, the run over those that can be requested
(`foldlM_quiet`). So the records of a service, its collisions and its failure are those of the
service without the other methods (`flatten_requestable`).
-/

set_option autoImplicit false
set_option relaxedAutoImplicit false

namespace ClientGen

open Declaration Flattening

/-- A verb as it is spelled in a rule. -/
def Verb.word : Verb → String
  | get => "get"
  | put => "put"
  | post => "post"
  | delete => "delete"
  | patch => "patch"

theorem Verb.toList_text (verb : Verb) : verb.text.toList = Text.upper verb.word.toList := by
  cases verb <;> decide +kernel

/-- The verb and the path template of a pattern. Custom verbs do not count. -/
def HttpPattern.request? : HttpPattern → Option (Verb × String)
  | get path => some (.get, path)
  | put path => some (.put, path)
  | post path => some (.post, path)
  | delete path => some (.delete, path)
  | patch path => some (.patch, path)
  | custom _ _ => none

namespace Declaration

/-- The verb and the path template by which a method can be requested: it streams in neither
direction, and its rule has a pattern with one of the five verbs. -/
def Method.request? (method : Method) : Option (Verb × String) :=
  if method.clientStreaming || method.serverStreaming then none
  else method.rule.bind fun rule ↦ rule.pattern.bind HttpPattern.request?

/-- A service without the methods that cannot be requested. -/
def Service.requestable (service : Service) : Service :=
  { service with methods := service.methods.filter fun method ↦ method.request?.isSome }

/-- The route of a method has the verb by which it can be requested, and the template with its
variables after a colon. -/
theorem Method.route?_eq (method : Method) : method.route? =
    method.request?.map fun (verb, template) ↦ ⟨verb, Route.colonPath template⟩ := by
  unfold Method.route? Method.request? Route.ofRule?
  split_ifs with hstreaming
  · rfl
  · cases method.rule with
    | none => rfl
    | some rule =>
      obtain ⟨pattern⟩ := rule
      cases pattern with
      | none => rfl
      | some pattern => cases pattern <;> rfl

theorem Method.isSome_route? (method : Method) :
    method.route?.isSome = method.request?.isSome := by
  rw [method.route?_eq, Option.isSome_map]

end Declaration

namespace Flattening

/-! ### Quiet states -/

/-- Whether an event reports a collision, and not a method that was left out. -/
def Event.isCollision : Event → Bool
  | collision _ => true
  | _ => false

/-- The collisions among events. -/
def collisions (events : List Event) : List Event :=
  events.filter Event.isCollision

/-- A state without the events of methods that were left out. -/
def State.quiet (s : State) : State :=
  { s with events := collisions s.events }

theorem State.visit?_quiet (s : State) (name : String) : s.quiet.visit? name = s.visit? name :=
  rfl

theorem State.enumOwner?_quiet (s : State) (name : String) :
    s.quiet.enumOwner? name = s.enumOwner? name :=
  rfl

theorem State.flatName?_quiet (s : State) (fullName : String) :
    s.quiet.flatName? fullName = s.flatName? fullName :=
  rfl

theorem State.stack_quiet (s : State) : s.quiet.stack = s.stack :=
  rfl

/-- A failed run without the events of methods that were left out. -/
def Halt.quiet (halt : Halt) : Halt :=
  { halt with events := collisions halt.events }

/-- A result without the events of methods that were left out. -/
def Result.quiet (result : Result) : Result :=
  { result with events := collisions result.events }

/-- An outcome without the events of methods that were left out, where `quiet` takes them out of an
answer. -/
def quietly {α : Type} (quiet : α → α) : Except Halt α → Except Halt α
  | .ok a => .ok (quiet a)
  | .error halt => .error halt.quiet

section Outcomes

variable {α β : Type} {quiet : α → α} {quiet' : β → β}

theorem map_quietly {f g : α → β} (h : ∀ a, g (quiet a) = quiet' (f a)) (x : Except Halt α) :
    (quietly quiet x).map g = quietly quiet' (x.map f) := by
  cases x with
  | error halt => rfl
  | ok a => exact congrArg Except.ok (h a)

theorem bind_quietly {f g : α → Except Halt β} (h : ∀ a, g (quiet a) = quietly quiet' (f a))
    (x : Except Halt α) : quietly quiet x >>= g = quietly quiet' (x >>= f) := by
  cases x with
  | error halt => rfl
  | ok a => exact h a

end Outcomes

theorem collisions_concat (events : List Event) (report : Report) :
    collisions (events ++ [.collision report]) = collisions events ++ [.collision report] := by
  rw [collisions, List.filter_append]
  rfl

theorem collisions_concat_of_ne {event : Event} (events : List Event)
    (h : ∀ report, event ≠ .collision report) :
    collisions (events ++ [event]) = collisions events := by
  have hquiet : event.isCollision = false := by
    cases event with
    | collision report => exact absurd rfl (h report)
    | streaming | unrouted => rfl
  rw [collisions, List.filter_append, List.filter_singleton, hquiet]
  exact List.append_nil _

/-! ### Walking a quiet state -/

namespace Context

variable (c : Context) (s : State)

theorem report_quiet (report : Report) :
    c.report report s.quiet = quietly State.quiet (c.report report s) := by
  unfold Context.report
  split
  · rfl
  · simp only [State.note, State.quiet, quietly, collisions_concat]

theorem claimMessage_quiet (fullName name : String) :
    c.claimMessage fullName name s.quiet =
      quietly State.quiet (c.claimMessage fullName name s) := by
  unfold claimMessage
  rw [s.visit?_quiet]
  cases s.visit? name with
  | some visit => exact c.report_quiet (s.give fullName name) _
  | none =>
    let given : State := { s.give fullName name with
      visits := s.visits ++ [⟨name, fullName, s.messages.length⟩] }
    dsimp only
    split
    · next other hother =>
      have howner : given.enumOwner? name = some other := hother
      rw [howner]
      exact c.report_quiet given _
    · next hnone =>
      have howner : given.enumOwner? name = none := hnone
      rw [howner]
      rfl

theorem claimEnum_quiet (fullName name : String) :
    c.claimEnum fullName name s.quiet = quietly State.quiet (c.claimEnum fullName name s) := by
  unfold claimEnum
  rw [s.enumOwner?_quiet]
  cases s.enumOwner? name with
  | some owner => exact c.report_quiet (s.give fullName name) _
  | none =>
    let given : State :=
      { s.give fullName name with enumOwners := s.enumOwners ++ [(name, fullName)] }
    dsimp only
    split
    · next visit hfound =>
      have hvisit : given.visit? name = some visit := hfound
      rw [hvisit]
      exact c.report_quiet given _
    · next hnone =>
      have hvisit : given.visit? name = none := hnone
      rw [hvisit]
      rfl

theorem reachMessage_quiet (message : Message) (around : Option String) :
    c.reachMessage message around s.quiet =
      quietly (fun (name, frame, t) ↦ (name, frame, t.quiet))
        (c.reachMessage message around s) := by
  unfold reachMessage
  rw [s.flatName?_quiet]
  cases s.flatName? message.fullName with
  | some name => rfl
  | none =>
    dsimp only
    rw [claimMessage_quiet]
    refine map_quietly ?_ _
    exact fun _ ↦ rfl

theorem reachEnum_quiet (enum : Enum) (around : Option String) :
    c.reachEnum enum around s.quiet =
      quietly (fun (name, t) ↦ (name, t.quiet)) (c.reachEnum enum around s) := by
  unfold reachEnum
  rw [s.flatName?_quiet]
  cases s.flatName? enum.fullName with
  | some name => rfl
  | none =>
    dsimp only
    rw [claimEnum_quiet]
    refine map_quietly ?_ _
    exact fun _ ↦ rfl

theorem reach_quiet (field : Field) (around : String) :
    c.reach field around s.quiet =
      quietly (fun (target, frame, t) ↦ (target, frame, t.quiet)) (c.reach field around s) := by
  unfold reach
  split
  · rfl
  · split
    · rfl
    · rw [reachEnum_quiet]
      refine map_quietly ?_ _
      exact fun _ ↦ rfl
  · split
    · rfl
    · split
      · rfl
      · rw [reachMessage_quiet]
        refine map_quietly ?_ _
        exact fun _ ↦ rfl

theorem walkField_quiet (around : String) (field : Field) :
    c.walkField around field s.quiet =
      quietly (fun (record, frame, t) ↦ (record, frame, t.quiet))
        (c.walkField around field s) := by
  unfold walkField
  split
  · rw [reach_quiet]
    refine map_quietly ?_ _
    exact fun _ ↦ rfl
  · split
    · rw [reach_quiet]
      refine map_quietly ?_ _
      exact fun _ ↦ rfl
    · rfl

theorem step_quiet : c.step s.quiet = quietly State.quiet (c.step s) := by
  unfold step
  rw [s.stack_quiet]
  cases s.stack with
  | nil => rfl
  | cons top rest =>
    dsimp only
    cases top.pending with
    | nil => rfl
    | cons field pending =>
      dsimp only
      rw [walkField_quiet]
      refine map_quietly ?_ _
      exact fun _ ↦ rfl

theorem drain_quiet : c.drain s.quiet = quietly State.quiet (c.drain s) := by
  induction s using drain.induct c with
  | case1 s hidle =>
    rw [drain_idle hidle, drain_idle (s := s.quiet) hidle]
    rfl
  | case2 s hbusy halt hstep =>
    rw [drain_busy hbusy, drain_busy (s := s.quiet) hbusy, step_quiet, hstep]
    rfl
  | case3 s hbusy u hstep ih =>
    rw [drain_busy hbusy, drain_busy (s := s.quiet) hbusy, step_quiet, hstep]
    exact ih

theorem walkMessage_quiet (message : Message) :
    c.walkMessage message s.quiet = quietly State.quiet (c.walkMessage message s) := by
  unfold walkMessage
  rw [reachMessage_quiet]
  refine bind_quietly (fun (_, frame, t) ↦ ?_) _
  exact c.drain_quiet { t with stack := frame.toList ++ t.stack }

theorem walkRoute_quiet (method : Method) (route : Route) (input output : Message) :
    c.walkRoute method route input output s.quiet =
      quietly State.quiet (c.walkRoute method route input output s) := by
  unfold walkRoute
  rw [walkMessage_quiet]
  refine bind_quietly (fun t ↦ ?_) _
  rw [walkMessage_quiet]
  refine bind_quietly ?_ _
  exact fun _ ↦ rfl

/-- A method that can be requested does on a quiet state what it does on any. -/
theorem walkMethod_quiet {method : Method} (h : method.request?.isSome) :
    c.walkMethod s.quiet method = quietly State.quiet (c.walkMethod s method) := by
  obtain ⟨route, hroute⟩ := Option.isSome_iff_exists.mp (method.isSome_route?.trans h)
  unfold Method.route? at hroute
  unfold walkMethod
  split_ifs at hroute ⊢
  rw [hroute]
  dsimp only
  cases c.schema.message? method.input with
  | none => rfl
  | some input =>
    cases c.schema.message? method.output with
    | none => rfl
    | some output => exact c.walkRoute_quiet s method route input output

/-- A run over all methods is, but for the events of those left out, a run over those that can be
requested. -/
theorem foldlM_quiet (methods : List Method) :
    (methods.filter fun method ↦ method.request?.isSome).foldlM c.walkMethod s.quiet =
      quietly State.quiet (methods.foldlM c.walkMethod s) := by
  induction methods generalizing s with
  | nil => rfl
  | cons method rest ih =>
    rw [List.foldlM_cons]
    by_cases husable : method.request?.isSome
    · rw [List.filter_cons_of_pos (by simpa using husable), List.foldlM_cons,
        c.walkMethod_quiet s husable]
      exact bind_quietly ih _
    · have hskipped : method.route? = none := by
        rw [← Option.not_isSome_iff_eq_none, method.isSome_route?]
        exact husable
      have hquiet : (s.note (c.skipEvent method)).quiet = s.quiet := by
        simp only [State.quiet, State.note,
          collisions_concat_of_ne _ (c.skipEvent_ne_collision method)]
      rw [List.filter_cons_of_neg (by simpa using husable), walkMethod_of_unusable hskipped,
        ← hquiet]
      exact ih _

end Context

end Flattening

/-- Assumes: a linked descriptor set and a service of one of its files. Without the methods that
cannot be requested the service gives the same records, or fails with the same failure, after the
same collisions. A result has one call for each of the other methods, in their order, with its name
and its comment, the verb of its rule in capitals, and the path template of its rule with a colon
for each opening brace and without the closing ones. -/
theorem flatten_requestable {set : List Descriptor.File} {schema : Schema} {file : File}
    {service : Service} (strict : Bool) (hlink : Schema.link set = .ok schema)
    (hfile : file ∈ schema.files) (hservice : service ∈ file.services) :
    flatten schema strict service.requestable =
        quietly Result.quiet (flatten schema strict service) ∧
      ∀ result, flatten schema strict service = .ok result →
        List.Forall₂ (fun method call ↦ ∃ verb template,
            method.request? = some (verb, template) ∧
            call.name = method.name ∧ call.comment = method.comment ∧
            call.verb.toList = Text.upper verb.word.toList ∧
            call.path.toList = Route.colonTemplate template.toList)
          service.requestable.methods result.service.calls := by
  constructor
  · have hrun := Context.foldlM_quiet ⟨schema, service.name, strict⟩ {} service.methods
    unfold flatten
    refine (congrArg (Except.map _) hrun).trans (map_quietly ?_ _)
    exact fun _ ↦ rfl
  · intro result hresult
    obtain ⟨s, hruns, rfl, -, -⟩ := exists_sound_of_flatten hlink hfile hservice hresult
    have hcalls := hruns.calls
    simp only [Method.isSome_route?] at hcalls
    refine hcalls.imp ?_
    rintro method call ⟨route, input, output, hroute, -, -, rfl⟩
    rw [method.route?_eq] at hroute
    obtain ⟨⟨verb, template⟩, hrequest, rfl⟩ := Option.map_eq_some_iff.mp hroute
    exact ⟨verb, template, hrequest, rfl, rfl, verb.toList_text, Route.toList_colonPath template⟩

namespace Kiosk

/-- The descriptors of a kiosk. Only two of its methods can be requested; the first of the others
names the seat of a ticket by itself. -/
def descriptors : List Descriptor.File :=
  [{ name := "kiosk.proto"
     package := "kiosk"
     messages := [
       { name := "Ticket"
         fields := [
           { name := "seat", jsonName := some "seat", type := .message
             typeName := ".kiosk.Ticket.Seat" }]
         messages := [{ name := "Seat" }] }]
     services := [
       { name := "Kiosk"
         methods := [
           { name := "Watch", input := ".kiosk.Ticket.Seat", output := ".kiosk.Ticket.Seat"
             serverStreaming := true, rule := some ⟨some (.get "/seats")⟩ },
           { name := "Audit", input := ".kiosk.Ticket.Seat", output := ".kiosk.Ticket" },
           { name := "Book", input := ".kiosk.Ticket", output := ".kiosk.Ticket"
             rule := some ⟨some (.post "/tickets/\x7bid\x7d")⟩ },
           { name := "Purge", input := ".kiosk.Ticket.Seat", output := ".kiosk.Ticket.Seat"
             rule := some ⟨some (.custom "PURGE" "/seats")⟩ },
           { name := "Find", input := ".kiosk.Ticket.Seat", output := ".kiosk.Ticket"
             rule := some ⟨some (.get "/tickets")⟩ },
           { name := "Draft", input := ".kiosk.Ticket", output := ".kiosk.Ticket"
             rule := some ⟨none⟩ }] }] }]

/-- The service of the kiosk. -/
def service : Service :=
  ⟨"Kiosk", "", "kiosk.proto", [
    ⟨"Watch", ".kiosk.Ticket.Seat", ".kiosk.Ticket.Seat", false, true, "",
      some ⟨some (.get "/seats")⟩⟩,
    ⟨"Audit", ".kiosk.Ticket.Seat", ".kiosk.Ticket", false, false, "", none⟩,
    ⟨"Book", ".kiosk.Ticket", ".kiosk.Ticket", false, false, "",
      some ⟨some (.post "/tickets/\x7bid\x7d")⟩⟩,
    ⟨"Purge", ".kiosk.Ticket.Seat", ".kiosk.Ticket.Seat", false, false, "",
      some ⟨some (.custom "PURGE" "/seats")⟩⟩,
    ⟨"Find", ".kiosk.Ticket.Seat", ".kiosk.Ticket", false, false, "",
      some ⟨some (.get "/tickets")⟩⟩,
    ⟨"Draft", ".kiosk.Ticket", ".kiosk.Ticket", false, false, "", some ⟨none⟩⟩]⟩

/-- The file of the kiosk. -/
def file : File :=
  ⟨"kiosk.proto", "kiosk", [
    ⟨"Ticket", ".kiosk.Ticket", "", false, none,
      [⟨"seat", "seat", .message, false, "", .message ".kiosk.Ticket.Seat"⟩],
      [⟨"Seat", ".kiosk.Ticket.Seat", "", false, some ".kiosk.Ticket", [], [], []⟩], []⟩],
    [], [service]⟩

/-- The linked kiosk. -/
def schema : Schema :=
  ⟨[file]⟩

/-- The records of the kiosk: the seat has the name under which a ticket reaches it. -/
def flat : Record.Service where
  name := "Kiosk"
  comment := ""
  calls := [
    ⟨"Book", "POST", "/tickets/:id", "Ticket", "Ticket", ""⟩,
    ⟨"Find", "GET", "/tickets", "Seat", "Ticket", ""⟩]
  messages := [
    ⟨"Ticket_Seat", "", []⟩,
    ⟨"Ticket", "", [⟨"seat", "TYPE_MESSAGE", .reference "Ticket_Seat" false, ""⟩]⟩]
  enums := []

/-- The result of flattening the kiosk, after the given events. -/
def result (events : List Event) : Result :=
  ⟨flat, [⟨"Ticket", ".kiosk.Ticket", 0⟩, ⟨"Ticket_Seat", ".kiosk.Ticket.Seat", 0⟩], events⟩

theorem link_eq : Schema.link descriptors = .ok schema := by
  rfl

theorem flatten_eq : flatten schema false service = .ok (result [
    .streaming "Kiosk" "Watch", .unrouted "Kiosk" "Audit", .unrouted "Kiosk" "Purge",
    .unrouted "Kiosk" "Draft"]) := by
  simp only [flatten, service, List.foldlM_cons, List.foldlM_nil, Context.walkMethod,
    Context.walkRoute, Context.walkMessage, Context.drain_eq]
  decide +kernel

theorem tickets_requestable :
    Schema.link descriptors = .ok schema ∧ file ∈ schema.files ∧ service ∈ file.services ∧
      service.requestable.methods.map Method.name = ["Book", "Find"] ∧
      flatten schema false service.requestable = .ok (result []) ∧
      List.Forall₂ (fun method call ↦ ∃ verb template,
          method.request? = some (verb, template) ∧
          call.name = method.name ∧ call.comment = method.comment ∧
          call.verb.toList = Text.upper verb.word.toList ∧
          call.path.toList = Route.colonTemplate template.toList)
        service.requestable.methods flat.calls := by
  have hfile : file ∈ schema.files := List.mem_singleton_self file
  have hservice : service ∈ file.services := List.mem_singleton_self service
  obtain ⟨hsame, hcalls⟩ := flatten_requestable false link_eq hfile hservice
  rw [flatten_eq] at hsame
  exact ⟨link_eq, hfile, hservice, by decide, hsame, hcalls _ flatten_eq⟩

end Kiosk

end ClientGen
