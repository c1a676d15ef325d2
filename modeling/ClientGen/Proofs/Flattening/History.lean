import ClientGen.Proofs.Flattening.Budget
import ClientGen.Proofs.Flattening.Invariant

/-!
# The course of a run

A run does one thing after another. While a message is being walked, it advances the walk; between
walks it does the jobs of its methods, which are to leave a method out, to enter a message or to
append a call. A `Point` is where a run stands, `Context.next` leads on to the point after it, and
`History` lists the points that a run has passed, the latest first. Going on from point to point
comes to what `Context.run` comes to (`run_eq_outcome`). Each step spends some of the budget, so
that the points are limited in number (`History.length_add_budget_le`) and a run gets to an end
(`History.exists_end`).
-/

set_option autoImplicit false
set_option relaxedAutoImplicit false

namespace ClientGen.Flattening

open Declaration Relation

/-- What a run does when no message is being walked. -/
inductive Job
  | skip (method : Method)
  | enter (message : Message)
  | call (call : Record.Call)

/-- Where a run stands: its state, and the jobs that are left. -/
structure Point where
  state : State
  jobs : List Job

namespace Point

/-- No message is being walked, and no job is left. -/
def Done (p : Point) : Prop :=
  p.state.stack = [] ∧ p.jobs = []

/-- A bound on the steps that are left to a run. -/
def budget (schema : Schema) (p : Point) : Nat :=
  p.state.budget schema + p.jobs.length

/-- Only roots of the service are still to be entered. -/
def Rooted (schema : Schema) (service : Service) (p : Point) : Prop :=
  ∀ message, .enter message ∈ p.jobs → schema.Root service message

end Point

namespace Context

/-- The jobs of a method. -/
def jobs (c : Context) (method : Method) : List Job :=
  match method.route? with
  | none => [.skip method]
  | some route => match c.schema.message? method.input, c.schema.message? method.output with
    | some input, some output =>
      [.enter input, .enter output, .call (callRecord method route input output)]
    | _, _ => []

/-- Does a job. -/
def perform (c : Context) (s : State) : Job → Except Halt State
  | .skip method => .ok (s.note (c.skipEvent method))
  | .enter message => (c.reachMessage message none s).map fun (_, frame, t) ↦
      { t with stack := frame.toList ++ t.stack }
  | .call call => .ok { s with calls := s.calls ++ [call] }

/-- Goes on to the point after a point. -/
def next (c : Context) (p : Point) : Except Halt Point :=
  match p.state.stack, p.jobs with
  | [], [] => .ok p
  | [], job :: rest => (c.perform p.state job).map fun s ↦ ⟨s, rest⟩
  | _ :: _, jobs => (c.step p.state).map fun s ↦ ⟨s, jobs⟩

/-- The point at which a run over methods starts. -/
def start (c : Context) (methods : List Method) : Point :=
  ⟨{}, methods.flatMap c.jobs⟩

/-- Does a job, and walks the message that it enters. -/
def carryOut (c : Context) (s : State) (job : Job) : Except Halt State :=
  c.perform s job >>= c.drain

/-- What a run comes to from a point on. -/
def outcome (c : Context) (p : Point) : Except Halt State :=
  c.drain p.state >>= fun s ↦ p.jobs.foldlM c.carryOut s

end Context

/-- A run that started at one point stands at another, after it has passed the points of a list. -/
inductive History (c : Context) (start : Point) : List Point → Point → Prop
  | start : History c start [] start
  | next {past : List Point} {p q : Point} (history : History c start past p) (busy : ¬p.Done)
      (next_eq : c.next p = .ok q) : History c start (p :: past) q

namespace Context

variable {c : Context} {s t : State}

/-! ### The jobs come to the run -/

theorem carryOut_skip (hidle : s.stack = []) (method : Method) :
    c.carryOut s (.skip method) = .ok (s.note (c.skipEvent method)) := by
  have hnoted : (s.note (c.skipEvent method)).stack = [] := hidle
  exact drain_idle hnoted

theorem carryOut_call (hidle : s.stack = []) (call : Record.Call) :
    c.carryOut s (.call call) = .ok { s with calls := s.calls ++ [call] } := by
  have hcalled : ({ s with calls := s.calls ++ [call] } : State).stack = [] := hidle
  exact drain_idle hcalled

theorem carryOut_enter (message : Message) :
    c.carryOut s (.enter message) = c.walkMessage message s := by
  rw [carryOut, perform, walkMessage]
  cases c.reachMessage message none s with
  | error halt => rfl
  | ok reached => rfl

theorem idle_of_carryOut {job : Job} (h : c.carryOut s job = .ok t) : t.stack = [] := by
  obtain ⟨u, -, hdrain⟩ := exists_of_bind_eq_ok h
  exact (drain_advances hdrain).2

theorem idle_of_foldlM {jobs : List Job} (hidle : s.stack = [])
    (h : jobs.foldlM c.carryOut s = .ok t) : t.stack = [] := by
  induction jobs generalizing s with
  | nil =>
    cases h
    exact hidle
  | cons job rest ih =>
    rw [List.foldlM_cons] at h
    obtain ⟨u, hjob, hrest⟩ := exists_of_bind_eq_ok h
    exact ih (idle_of_carryOut hjob) hrest

/-- Walking a method is doing its jobs. -/
theorem walkMethod_eq_jobs (hidle : s.stack = []) (method : Method) :
    c.walkMethod s method = (c.jobs method).foldlM c.carryOut s := by
  unfold jobs
  cases hroute : method.route? with
  | none =>
    rw [walkMethod_of_unusable hroute, List.foldlM_cons, carryOut_skip hidle]
    rfl
  | some route =>
    dsimp only
    split
    · next input output hinput houtput =>
      rw [walkMethod_of_usable hroute hinput houtput, walkRoute, List.foldlM_cons, carryOut_enter]
      refine bind_congr fun t ↦ ?_
      rw [List.foldlM_cons, carryOut_enter]
      cases hwalk : c.walkMessage output t with
      | error halt => rfl
      | ok u =>
        rw [← carryOut_enter] at hwalk
        change _ = [Job.call _].foldlM c.carryOut u
        rw [List.foldlM_cons, carryOut_call (idle_of_carryOut hwalk)]
        rfl
    · next hnone =>
      unfold Method.route? at hroute
      unfold walkMethod
      split_ifs at hroute ⊢
      rw [hroute]
      dsimp only
      split
      · next input output hinput houtput => exact absurd houtput (hnone input output hinput)
      · rfl

theorem foldlM_eq_jobs (hidle : s.stack = []) (methods : List Method) :
    methods.foldlM c.walkMethod s = (methods.flatMap c.jobs).foldlM c.carryOut s := by
  induction methods generalizing s with
  | nil => rfl
  | cons method rest ih =>
    rw [List.foldlM_cons, List.flatMap_cons, List.foldlM_append, walkMethod_eq_jobs hidle]
    cases hjobs : (c.jobs method).foldlM c.carryOut s with
    | error halt => rfl
    | ok t => exact ih (idle_of_foldlM hidle hjobs)

/-- A run comes to what its jobs come to. -/
theorem run_eq_outcome (methods : List Method) : c.run methods = c.outcome (c.start methods) := by
  rw [outcome, start, drain_idle rfl]
  exact foldlM_eq_jobs rfl methods

/-! ### Going on changes nothing of what a run comes to -/

theorem outcome_of_done {p : Point} (hdone : p.Done) : c.outcome p = .ok p.state := by
  rw [outcome, drain_idle hdone.1, hdone.2]
  rfl

theorem outcome_eq_bind {p : Point} (hbusy : ¬p.Done) : c.outcome p = c.next p >>= c.outcome := by
  obtain ⟨s, jobs⟩ := p
  unfold outcome next
  dsimp only
  split
  · next hidle => exact absurd ⟨hidle, rfl⟩ hbusy
  · next job rest hidle =>
    rw [drain_idle hidle]
    change (job :: rest).foldlM c.carryOut s = _
    rw [List.foldlM_cons, carryOut]
    cases c.perform s job with
    | error halt => rfl
    | ok t => rfl
  · next top rest hstack =>
    rw [drain_busy (by simp [hstack])]
    cases c.step s with
    | error halt => rfl
    | ok t => rfl

/-! ### What going on does -/

variable {service : Service} {p q : Point}

theorem perform_move {job : Job} (hidle : s.stack = [])
    (hroot : ∀ message, job = .enter message → c.schema.Root service message)
    (h : c.perform s job = .ok t) :
    Move c service s t ∧ t.budget c.schema ≤ s.budget c.schema := by
  cases job with
  | skip method =>
    cases h
    exact ⟨.note (c.skipEvent_ne_collision method), Nat.le_refl _⟩
  | call call =>
    cases h
    exact ⟨.call, Nat.le_refl _⟩
  | enter message =>
    obtain ⟨⟨name, frame, u⟩, hreach, hu⟩ := exists_of_map_eq_ok h
    cases hu
    have hnaming := reachMessage_naming hreach
    have hroot := hroot message rfl
    refine ⟨.enter hidle hroot hnaming, ?_⟩
    have hreserve := hnaming.reserve_le hroot.owner?
    have hwork : ({ u with stack := u.stack } : State).work = 0 := by
      simp [State.work, hnaming.stack_eq, hidle]
    rw [State.budget, State.work_append, hwork, Nat.add_zero]
    exact Nat.le_trans hreserve (Nat.le_add_right _ _)

/-- While a message is being walked, going on advances the walk. -/
theorem next_advance (hstack : p.state.stack ≠ []) (h : c.next p = .ok q) :
    Advance c p.state q.state ∧ q.jobs = p.jobs := by
  obtain ⟨s, jobs⟩ := p
  unfold next at h
  dsimp only at h
  split at h
  · next hidle => exact absurd hidle hstack
  · next job rest hidle => exact absurd hidle hstack
  · next top rest _ =>
    obtain ⟨t, hstep, rfl⟩ := exists_of_map_eq_ok h
    exact ⟨step_advance hstack hstep, rfl⟩

/-- Going on moves the state, uses up a job or a part of the budget, and adds no job. -/
theorem next_move (hrooted : p.Rooted c.schema service) (hbusy : ¬p.Done) (h : c.next p = .ok q) :
    Move c service p.state q.state ∧ q.budget c.schema < p.budget c.schema ∧
      q.Rooted c.schema service := by
  by_cases hidle : p.state.stack = []
  · obtain ⟨s, jobs⟩ := p
    cases jobs with
    | nil => exact absurd ⟨hidle, rfl⟩ hbusy
    | cons job rest =>
      change s.stack = [] at hidle
      rw [next, hidle] at h
      obtain ⟨t, hperform, rfl⟩ := exists_of_map_eq_ok h
      obtain ⟨hmove, hbudget⟩ := perform_move hidle
        (fun message heq ↦ hrooted message (heq ▸ List.mem_cons_self)) hperform
      refine ⟨hmove, ?_, fun message hmem ↦ hrooted message (List.mem_cons_of_mem _ hmem)⟩
      simp only [Point.budget, List.length_cons]
      omega
  · obtain ⟨hadvance, hjobs⟩ := next_advance hidle h
    refine ⟨.advance hadvance, ?_, ?_⟩
    · rw [Point.budget, Point.budget, hjobs]
      exact Nat.add_lt_add_right hadvance.budget_lt _
    · rw [Point.Rooted, hjobs]
      exact hrooted

/-- A run over methods of a service enters roots of the service only. -/
theorem rooted_start {methods : List Method}
    (hmem : ∀ method ∈ methods, method ∈ service.methods) :
    (c.start methods).Rooted c.schema service := by
  intro message hjob
  obtain ⟨method, hmethod, hjob⟩ := List.mem_flatMap.mp hjob
  unfold jobs at hjob
  split at hjob
  · simp at hjob
  · next route hroute =>
    have husable : method.route?.isSome := by simp [hroute]
    split at hjob
    · next input output hinput houtput =>
      simp only [List.mem_cons, Job.enter.injEq, List.not_mem_nil, or_false, reduceCtorEq] at hjob
      rcases hjob with rfl | rfl
      · exact .input (hmem method hmethod) husable hinput
      · exact .output (hmem method hmethod) husable houtput
    · simp at hjob

/-- A method has at most three jobs. -/
theorem length_start_jobs_le (methods : List Method) :
    (c.start methods).jobs.length ≤ 3 * methods.length := by
  induction methods with
  | nil => exact Nat.le_refl _
  | cons method rest ih =>
    have hjobs : (c.jobs method).length ≤ 3 := by
      unfold jobs
      split
      · simp
      · split <;> simp
    simp only [start, List.flatMap_cons, List.length_append, List.length_cons] at ih ⊢
    omega

end Context

namespace History

variable {c : Context} {service : Service} {methods : List Method} {start p : Point}
  {past : List Point}

theorem rooted (h : History c start past p) (hstart : start.Rooted c.schema service) :
    p.Rooted c.schema service := by
  induction h with
  | start => exact hstart
  | next _ hbusy hnext ih => exact (Context.next_move ih hbusy hnext).2.2

/-- A run is a sequence of moves. -/
theorem moves (h : History c start past p) (hstart : start.Rooted c.schema service) :
    ReflTransGen (Move c service) start.state p.state := by
  induction h with
  | start => exact .refl
  | next history hbusy hnext ih =>
    exact ih.tail (Context.next_move (history.rooted hstart) hbusy hnext).1

/-- Every point that a run has passed has spent some of the budget. -/
theorem length_add_budget_le (h : History c start past p)
    (hstart : start.Rooted c.schema service) :
    past.length + p.budget c.schema ≤ start.budget c.schema := by
  induction h with
  | start => simp
  | next history hbusy hnext ih =>
    have hlt := (Context.next_move (history.rooted hstart) hbusy hnext).2.1
    rw [List.length_cons]
    omega

/-- What a run comes to is settled by where it stands. -/
theorem outcome_eq (h : History c start past p) : c.outcome start = c.outcome p := by
  induction h with
  | start => rfl
  | next _ hbusy hnext ih =>
    rw [ih, Context.outcome_eq_bind hbusy, hnext]
    rfl

/-- Wherever a run stands, it goes on to an end: nothing is left to do, or it fails. -/
theorem exists_end (h : History c start past p) (hstart : start.Rooted c.schema service) :
    ∃ before last, History c start before last ∧
      (last.Done ∨ ∃ halt, ¬last.Done ∧ c.next last = .error halt) := by
  induction hbudget : p.budget c.schema using Nat.strongRecOn generalizing p past with
  | _ n ih =>
    by_cases hdone : p.Done
    · exact ⟨past, p, h, .inl hdone⟩
    · cases hnext : c.next p with
      | error halt => exact ⟨past, p, h, .inr ⟨halt, hdone, hnext⟩⟩
      | ok q =>
        have hlt := (Context.next_move (h.rooted hstart) hdone hnext).2.1
        exact ih _ (hbudget ▸ hlt) (h.next hdone hnext) rfl

end History

/-- A run on a service stands at a point, after it has passed the points of a list. -/
def Course (schema : Schema) (strict : Bool) (service : Service) (past : List Point)
    (p : Point) : Prop :=
  History ⟨schema, service.name, strict⟩
    (Context.start ⟨schema, service.name, strict⟩ service.methods) past p

namespace Course

variable {schema : Schema} {strict : Bool} {service : Service} {past : List Point} {p : Point}

theorem start_rooted (schema : Schema) (strict : Bool) (service : Service) :
    (Context.start ⟨schema, service.name, strict⟩ service.methods).Rooted schema service :=
  Context.rooted_start (c := ⟨schema, service.name, strict⟩) fun _ hmethod ↦ hmethod

/-- The invariant of runs holds wherever a run stands. -/
theorem sound (h : Course schema strict service past p) :
    Sound ⟨schema, service.name, strict⟩ service p.state :=
  .of_moves (History.moves h (start_rooted schema strict service))

/-- The points that a run has passed are limited in number. -/
theorem length_le (h : Course schema strict service past p) :
    past.length ≤ schema.cost + 3 * service.methods.length := by
  have hspent := History.length_add_budget_le h (start_rooted schema strict service)
  have hbudget : ({} : State).budget schema = schema.cost := by
    simp [State.budget, State.reserve, State.reserveOver, State.reserveOf, State.flatName?,
      State.work, Schema.cost]
  have hjobs := Context.length_start_jobs_le (c := ⟨schema, service.name, strict⟩) service.methods
  simp only [Point.budget] at hspent
  change _ ≤ ({} : State).budget schema + _ at hspent
  omega

theorem run_eq_of_done (h : Course schema strict service past p) (hdone : p.Done) :
    Context.run ⟨schema, service.name, strict⟩ service.methods = .ok p.state := by
  rw [Context.run_eq_outcome, History.outcome_eq h, Context.outcome_of_done hdone]

/-- A run that has nothing left to do returns. -/
theorem flatten_of_done (h : Course schema strict service past p) (hdone : p.Done) :
    flatten schema strict service = .ok (p.state.result service) :=
  congrArg (Except.map fun s : State ↦ s.result service) (h.run_eq_of_done hdone)

/-- A run that cannot go on fails. -/
theorem flatten_of_error {halt : Halt} (h : Course schema strict service past p)
    (hbusy : ¬p.Done) (herror : Context.next ⟨schema, service.name, strict⟩ p = .error halt) :
    flatten schema strict service = .error halt := by
  have hrun : Context.run ⟨schema, service.name, strict⟩ service.methods = .error halt := by
    rw [Context.run_eq_outcome, History.outcome_eq h, Context.outcome_eq_bind hbusy, herror]
    rfl
  exact congrArg (Except.map fun s : State ↦ s.result service) hrun

/-- A run gets to a point where it has nothing left to do, and returns, or cannot go on, and
fails. -/
theorem exists_end (schema : Schema) (strict : Bool) (service : Service) :
    ∃ past p, Course schema strict service past p ∧
      (p.Done ∧ flatten schema strict service = .ok (p.state.result service) ∨
        ∃ halt, ¬p.Done ∧ Context.next ⟨schema, service.name, strict⟩ p = .error halt ∧
          flatten schema strict service = .error halt) := by
  obtain ⟨past, p, hcourse, hend⟩ := History.exists_end (c := ⟨schema, service.name, strict⟩)
    .start (start_rooted schema strict service)
  refine ⟨past, p, hcourse, ?_⟩
  rcases hend with hdone | ⟨halt, hbusy, herror⟩
  · exact .inl ⟨hdone, flatten_of_done hcourse hdone⟩
  · exact .inr ⟨halt, hbusy, herror, flatten_of_error hcourse hbusy herror⟩

/-- A result is that of the point at which a run ends. -/
theorem exists_of_flatten {result : Result} (h : flatten schema strict service = .ok result) :
    ∃ past p, Course schema strict service past p ∧ p.Done ∧ p.state.result service = result := by
  obtain ⟨past, p, hcourse, ⟨hdone, hreturns⟩ | ⟨halt, -, -, hfails⟩⟩ :=
    exists_end schema strict service
  · rw [h] at hreturns
    exact ⟨past, p, hcourse, hdone, (Except.ok.inj hreturns).symm⟩
  · rw [h] at hfails
    cases hfails

end Course

end ClientGen.Flattening
