import ClientGen.Proofs.Isolation
import ClientGen.Proofs.Script.Binding

/-!
# Overrides without an entry point

A script has to define the entry point of the sandbox. What is called is the value under that name
in the namespace, though, and in a sandbox that is not isolated it may be left over from another
script. So a script that does not bind the entry point is refused if and only if nothing is left
over that answers in its place (`refused_iff`), which has to come from a script that did bind it
(`exists_binds_of_holds`). Both are put together for every history of a sandbox
(`run_without_entry`).
-/

set_option autoImplicit false
set_option relaxedAutoImplicit false

namespace ClientGen.Sandbox

open Script

/-! ### Histories -/

/-- A script that a sandbox runs, with the arguments for its entry point. -/
structure Task where
  place : String
  script : Script
  arguments : List String

/-- What comes of a task. -/
def result (sandbox : Sandbox) (task : Task) : Except Failure String :=
  ((Sandbox.run task.place task.script task.arguments).run.run sandbox).1

/-- The sandbox after a task, whether it gave a text or not. -/
def perform (sandbox : Sandbox) (task : Task) : Sandbox :=
  ((Sandbox.run task.place task.script task.arguments).run.run sandbox).2

/-- A sandbox in which no script was run. -/
def fresh (entry : String) (isolated : Bool) : Sandbox where
  entryPoint := entry
  isolated := isolated

/-- The sandbox after tasks, from the first to the last. -/
def after (sandbox : Sandbox) (tasks : List Task) : Sandbox :=
  tasks.foldl perform sandbox

/-- The memory in which a script starts. -/
def start (sandbox : Sandbox) : Memory :=
  if sandbox.isolated then {} else sandbox.memory

/-- What comes of the evaluation of the script of a task, and the memory after it. -/
def evaluated (sandbox : Sandbox) (task : Task) : Except Raised Unit × Memory :=
  (Script.run task.place task.script).run.run sandbox.start

variable {entry : String} {sandbox : Sandbox} {task : Task}

theorem after_concat (sandbox : Sandbox) (tasks : List Task) (task : Task) :
    sandbox.after (tasks ++ [task]) = (sandbox.after tasks).perform task := by
  rw [after, List.foldl_append]
  rfl

theorem settings_perform (sandbox : Sandbox) (task : Task) :
    (sandbox.perform task).entryPoint = sandbox.entryPoint ∧
      (sandbox.perform task).isolated = sandbox.isolated := by
  have hkept := run_maintains task.place task.script task.arguments sandbox ⟨rfl, rfl⟩
  exact ⟨hkept.entryPoint, hkept.isolated⟩

theorem settings_after (sandbox : Sandbox) (tasks : List Task) :
    (sandbox.after tasks).entryPoint = sandbox.entryPoint ∧
      (sandbox.after tasks).isolated = sandbox.isolated := by
  induction tasks generalizing sandbox with
  | nil => exact ⟨rfl, rfl⟩
  | cons task rest ih =>
    obtain ⟨hentry, hisolated⟩ := sandbox.settings_perform task
    obtain ⟨hentryRest, hisolatedRest⟩ := ih (sandbox.perform task)
    exact ⟨hentryRest.trans hentry, hisolatedRest.trans hisolated⟩

/-! ### The outcome of a task -/

theorem run_evaluate_eq (sandbox : Sandbox) (task : Task) :
    (evaluate task.place task.script).run.run sandbox =
      ((sandbox.evaluated task).1.mapError (.ofRaised (.evaluation task.place)),
        { sandbox with memory := (sandbox.evaluated task).2 }) := by
  have hstart : (if sandbox.isolated then { sandbox with memory := {} } else sandbox) =
      { sandbox with memory := sandbox.start } := by
    unfold start
    split <;> rfl
  rw [run_evaluate, hstart, run_within]
  rfl

/-- A script that raises is not followed by a call. -/
theorem run_of_error {raised : Raised} (h : (sandbox.evaluated task).1 = .error raised) :
    (Sandbox.run task.place task.script task.arguments).run.run sandbox =
      (.error (.ofRaised (.evaluation task.place) raised),
        { sandbox with memory := (sandbox.evaluated task).2 }) := by
  unfold Sandbox.run
  rw [run_bind_eq, run_evaluate_eq, h]
  rfl

theorem run_of_ok (h : (sandbox.evaluated task).1 = .ok ()) :
    (Sandbox.run task.place task.script task.arguments).run.run sandbox =
      (Sandbox.invoke task.place task.arguments).run.run
        { sandbox with memory := (sandbox.evaluated task).2 } := by
  unfold Sandbox.run
  rw [run_bind_eq, run_evaluate_eq, h]
  rfl

/-- An error of the override, which does not end the program. -/
def Refused (result : Except Failure String) : Prop :=
  ∃ failure, result = .error failure ∧ ∀ kind message, failure ≠ .ending kind message

/-- A call gives a text, or ends the program. -/
def Answers (result : Except Raised Value) : Prop :=
  (∃ text, result = .ok (.text text)) ∨
    ∃ raised, result = .error raised ∧ raised.ending?.isSome = true

theorem refused_ofRaised_iff {failure : Raised → Failure} {raised : Raised}
    (hfailure : ∀ kind message, failure raised ≠ .ending kind message) :
    Refused (.error (.ofRaised failure raised)) ↔ raised.ending? = none := by
  unfold Failure.ofRaised
  cases hending : raised.ending? with
  | none => exact iff_of_true ⟨_, rfl, hfailure⟩ rfl
  | some ending =>
    refine iff_of_false ?_ nofun
    rintro ⟨found, hfound, hproper⟩
    exact hproper ending.1 ending.2 (Except.error.inj hfound).symm

/-- The call of a value in place of the entry point. -/
def answer (place entry : String) (arguments : List String) (callee : Value) : Step String := do
  let value ← within (.call place) (Script.invoke callee (arguments.map .text))
  match value with
  | .text text => return text
  | value => throw (.notText place entry value.typeName)

theorem refused_answer_iff (place entry : String) (arguments : List String) (callee : Value)
    (sandbox : Sandbox) :
    Refused ((answer place entry arguments callee).run.run sandbox).1 ↔
      ¬Answers ((Script.invoke callee (arguments.map .text)).run.run sandbox.memory).1 := by
  unfold answer
  rw [run_bind_eq, run_within]
  generalize (Script.invoke callee (arguments.map .text)).run.run sandbox.memory = outcome
  obtain ⟨result, memory⟩ := outcome
  cases result with
  | error raised =>
    have hrefused : Refused (.error (.ofRaised (.call place) raised)) ↔ raised.ending? = none :=
      refused_ofRaised_iff nofun
    exact hrefused.trans (by simp [Answers])
  | ok value =>
    cases value with
    | text text =>
      refine iff_of_false ?_ (not_not_intro (.inl ⟨text, rfl⟩))
      rintro ⟨_, ⟨⟩, -⟩
    | _ =>
      refine iff_of_true ⟨_, rfl, nofun⟩ ?_
      rintro (⟨_, ⟨⟩⟩ | ⟨_, ⟨⟩, -⟩)

/-- Something that can be called is under the name of the entry point. -/
def Holds (entry : String) (memory : Memory) : Prop :=
  ∃ callee : Value, callee.isCallable = true ∧ memory.bindings.get? entry = some callee

/-- Without anything to call, a call is refused and does nothing. -/
theorem invoke_of_not_holds (sandbox : Sandbox) (place : String) (arguments : List String)
    (h : ¬Holds sandbox.entryPoint sandbox.memory) :
    ∃ failure, (Sandbox.invoke place arguments).run.run sandbox = (.error failure, sandbox) ∧
      ∀ kind message, failure ≠ .ending kind message := by
  have hget : (get : Step Sandbox).run.run sandbox = (.ok sandbox, sandbox) := rfl
  unfold Sandbox.invoke
  rw [run_bind_eq, hget]
  dsimp only
  cases hfound : sandbox.memory.bindings.get? sandbox.entryPoint with
  | none => exact ⟨_, rfl, nofun⟩
  | some callee =>
    have hcallable : callee.isCallable ≠ true := fun hcallable ↦ h ⟨callee, hcallable, hfound⟩
    cases callee with
    | function | kind => exact absurd rfl hcallable
    | _ => exact ⟨_, rfl, nofun⟩

theorem invoke_of_get? (place : String) (arguments : List String) {callee : Value}
    (hcallable : callee.isCallable = true)
    (hfound : sandbox.memory.bindings.get? sandbox.entryPoint = some callee) :
    (Sandbox.invoke place arguments).run.run sandbox =
      (answer place sandbox.entryPoint arguments callee).run.run sandbox := by
  have hget : (get : Step Sandbox).run.run sandbox = (.ok sandbox, sandbox) := rfl
  unfold Sandbox.invoke
  rw [run_bind_eq, hget]
  dsimp only
  rw [hfound]
  cases callee with
  | function | kind => rfl
  | _ => cases hcallable

/-- A call is refused unless something is under the name of the entry point that can be called and
answers. -/
theorem refused_invoke_iff (place : String) (arguments : List String) (sandbox : Sandbox) :
    Refused ((Sandbox.invoke place arguments).run.run sandbox).1 ↔
      ¬∃ callee : Value, callee.isCallable = true ∧
        sandbox.memory.bindings.get? sandbox.entryPoint = some callee ∧
        Answers ((Script.invoke callee (arguments.map .text)).run.run sandbox.memory).1 := by
  by_cases hholds : Holds sandbox.entryPoint sandbox.memory
  · obtain ⟨callee, hcallable, hfound⟩ := hholds
    rw [invoke_of_get? place arguments hcallable hfound, refused_answer_iff, hfound, not_iff_not]
    constructor
    · exact fun hanswers ↦ ⟨callee, hcallable, rfl, hanswers⟩
    · rintro ⟨other, -, hsame, hanswers⟩
      exact Option.some.inj hsame ▸ hanswers
  · obtain ⟨failure, hfailure, hproper⟩ := invoke_of_not_holds sandbox place arguments hholds
    rw [hfailure]
    refine iff_of_true ⟨failure, rfl, hproper⟩ ?_
    rintro ⟨callee, hcallable, hfound, -⟩
    exact hholds ⟨callee, hcallable, hfound⟩

/-! ### Left-over entry points -/

theorem not_holds_fresh (entry : String) : ¬Holds entry {} := by
  rintro ⟨callee, hcallable, hfound⟩
  change List.lookup entry [("__name__", Value.text "pb2ts_override")] = some callee at hfound
  rw [List.lookup_cons] at hfound
  split at hfound
  · cases hfound
    cases hcallable
  · cases hfound

theorem Holds.of_keeps {memory later : Memory} (h : Holds entry later)
    (hkeeps : Keeps entry memory later) : Holds entry memory := by
  obtain ⟨callee, hcallable, hfound⟩ := h
  exact ⟨callee, hcallable, hkeeps callee hcallable hfound⟩

/-- A call leaves something to call only if there was something to call. -/
theorem holds_evaluated_of_perform (hentry : sandbox.entryPoint = entry)
    (h : Holds entry (sandbox.perform task).memory) :
    Holds entry (sandbox.evaluated task).2 := by
  subst hentry
  by_contra hnone
  refine hnone ?_
  rw [perform] at h
  cases hevaluated : (sandbox.evaluated task).1 with
  | error raised => rwa [run_of_error hevaluated] at h
  | ok =>
    rw [run_of_ok hevaluated] at h
    obtain ⟨failure, hfailure, -⟩ :=
      invoke_of_not_holds { sandbox with memory := (sandbox.evaluated task).2 } task.place
        task.arguments hnone
    rwa [hfailure] at h

/-- A script that does not bind the entry point leaves something to call only in a sandbox that is
not isolated and had it before. -/
theorem holds_of_not_binds (hbinds : ¬Script.Binds entry task.script sandbox.start)
    (h : Holds entry (sandbox.evaluated task).2) :
    sandbox.isolated = false ∧ Holds entry sandbox.memory := by
  have hstart := h.of_keeps (keeps_of_not_binds hbinds task.place)
  unfold start at hstart
  cases hisolated : sandbox.isolated with
  | true =>
    rw [hisolated] at hstart
    exact absurd hstart (not_holds_fresh _)
  | false =>
    rw [hisolated] at hstart
    exact ⟨rfl, hstart⟩

/-- What can be called under the name of the entry point comes from a script that bound it. The
induction is on the last task: it bound the name, or the name was there before. -/
theorem exists_binds_of_holds (entry : String) (isolated : Bool) {tasks : List Task}
    (h : Holds entry ((fresh entry isolated).after tasks).memory) :
    ∃ before task later, tasks = before ++ task :: later ∧
      Script.Binds entry task.script ((fresh entry isolated).after before).start := by
  induction tasks using List.reverseRecOn with
  | nil => exact absurd h (not_holds_fresh entry)
  | append_singleton front last ih =>
    have hentry : ((fresh entry isolated).after front).entryPoint = entry :=
      (settings_after _ front).1
    by_cases hbinds : Script.Binds entry last.script ((fresh entry isolated).after front).start
    · exact ⟨front, last, [], rfl, hbinds⟩
    · rw [after_concat] at h
      have hevaluated := holds_evaluated_of_perform hentry h
      obtain ⟨before, task, later, htasks, htask⟩ := ih (holds_of_not_binds hbinds hevaluated).2
      exact ⟨before, task, later ++ [last], by simp [htasks], htask⟩

/-- A value stands in for an entry point: it was there to be called when the script started, still
is when the script ends, and the call answers. -/
structure StandsIn (sandbox : Sandbox) (task : Task) (callee : Value) : Prop where
  callable : callee.isCallable = true
  before : sandbox.start.bindings.get? sandbox.entryPoint = some callee
  evaluated : (sandbox.evaluated task).1 = .ok ()
  still : (sandbox.evaluated task).2.bindings.get? sandbox.entryPoint = some callee
  answers :
    Answers ((Script.invoke callee (task.arguments.map .text)).run.run (sandbox.evaluated task).2).1

/-- A script that does not bind the entry point is refused, unless another value stands in.
Assumes: the script does not end the program. -/
theorem refused_iff (hbinds : ¬Script.Binds sandbox.entryPoint task.script sandbox.start)
    (hends : ∀ raised, (sandbox.evaluated task).1 = .error raised → raised.ending? = none) :
    Refused (sandbox.result task) ↔ ¬∃ callee, StandsIn sandbox task callee := by
  have hkeeps : Keeps sandbox.entryPoint sandbox.start (sandbox.evaluated task).2 :=
    keeps_of_not_binds hbinds task.place
  rw [result]
  cases hevaluated : (sandbox.evaluated task).1 with
  | error raised =>
    have hproper : ∀ kind message, Failure.evaluation task.place raised ≠ .ending kind message :=
      nofun
    rw [run_of_error hevaluated]
    refine iff_of_true ((refused_ofRaised_iff hproper).mpr (hends raised hevaluated)) ?_
    rintro ⟨callee, hstands⟩
    rw [hstands.evaluated] at hevaluated
    cases hevaluated
  | ok =>
    rw [run_of_ok hevaluated, refused_invoke_iff, not_iff_not]
    constructor
    · rintro ⟨callee, hcallable, hstill, hanswers⟩
      exact ⟨callee, hcallable, hkeeps callee hcallable hstill, hevaluated, hstill, hanswers⟩
    · rintro ⟨callee, hstands⟩
      exact ⟨callee, hstands.callable, hstands.still, hstands.answers⟩

/-- A script that does not bind the entry point is refused in an isolated sandbox. In one that is
shared, it is refused if and only if no value stands in that was left over. If one does, an earlier
script of the history bound the entry point.
Assumes: the script does not end the program. -/
theorem run_without_entry {entry : String} {isolated : Bool} {tasks : List Task} {task : Task}
    (hbinds : ¬Script.Binds entry task.script ((fresh entry isolated).after tasks).start)
    (hends : ∀ raised, (((fresh entry isolated).after tasks).evaluated task).1 = .error raised →
      raised.ending? = none) :
    (isolated = true → Refused (((fresh entry isolated).after tasks).result task)) ∧
    (Refused (((fresh entry isolated).after tasks).result task) ↔
      ¬∃ callee, StandsIn ((fresh entry isolated).after tasks) task callee) ∧
    (¬Refused (((fresh entry isolated).after tasks).result task) →
      ∃ before earlier later, tasks = before ++ earlier :: later ∧
        Script.Binds entry earlier.script ((fresh entry isolated).after before).start) := by
  obtain ⟨hentry, hisolated⟩ := (fresh entry isolated).settings_after tasks
  change ((fresh entry isolated).after tasks).entryPoint = entry at hentry
  have hiff := refused_iff (hentry.symm ▸ hbinds) hends
  -- What stands in was there before, so that it was left over.
  have hheld : ¬Refused (((fresh entry isolated).after tasks).result task) →
      ((fresh entry isolated).after tasks).isolated = false ∧
        Holds entry ((fresh entry isolated).after tasks).memory := by
    intro hanswered
    obtain ⟨callee, hstands⟩ := not_not.mp fun hnone ↦ hanswered (hiff.mpr hnone)
    have hstill := hstands.still
    rw [hentry] at hstill
    exact holds_of_not_binds hbinds ⟨callee, hstands.callable, hstill⟩
  refine ⟨fun h ↦ ?_, hiff, fun hanswered ↦ exists_binds_of_holds _ _ (hheld hanswered).2⟩
  by_contra hanswered
  exact Bool.noConfusion (h.symm.trans (hisolated.symm.trans (hheld hanswered).1))

namespace Stale

/-- A script that defines the entry point. -/
def finding : Task where
  place := "func_calls[Find]"
  script := [.define "func_call" [] (some "rest") [.give (.literal (.text "old"))] []]
  arguments := []

/-- A script that sets another name. -/
def listing : Task where
  place := "func_calls[List]"
  script := [.assign "x" (.literal (.number 1))]
  arguments := []

theorem evaluated_listing (isolated : Bool) :
    (((fresh "func_call" isolated).after [finding]).evaluated listing).1 = .ok () := by
  cases isolated <;> rfl

/-- The second script gets the text of the first one. -/
theorem old_text :
    ¬Script.Binds "func_call" listing.script ((fresh "func_call" false).after [finding]).start ∧
      (((fresh "func_call" false).after [finding]).evaluated listing).1 = .ok () ∧
      ((fresh "func_call" false).after [finding]).result listing = .ok "old" :=
  ⟨not_binds_of_ne (by decide) _ _, evaluated_listing false, by decide +kernel⟩

/-- Isolated, the second script is refused. Shared, a script before it bound the entry point. -/
theorem listing_without_entry :
    (∀ isolated, ¬Script.Binds "func_call" listing.script
        ((fresh "func_call" isolated).after [finding]).start ∧
      ∀ raised, (((fresh "func_call" isolated).after [finding]).evaluated listing).1 =
        .error raised → raised.ending? = none) ∧
    Refused (((fresh "func_call" true).after [finding]).result listing) ∧
    ∃ before earlier later, [finding] = before ++ earlier :: later ∧
      Script.Binds "func_call" earlier.script ((fresh "func_call" false).after before).start := by
  have hbinds (isolated : Bool) : ¬Script.Binds "func_call" listing.script
      ((fresh "func_call" isolated).after [finding]).start := not_binds_of_ne (by decide) _ _
  have hends (isolated : Bool) (raised : Raised)
      (h : (((fresh "func_call" isolated).after [finding]).evaluated listing).1 = .error raised) :
      raised.ending? = none := by
    rw [evaluated_listing] at h
    cases h
  refine ⟨fun isolated ↦ ⟨hbinds isolated, hends isolated⟩, ?_, ?_⟩
  · exact (run_without_entry (hbinds true) (hends true)).1 rfl
  · refine (run_without_entry (hbinds false) (hends false)).2.2 ?_
    rintro ⟨failure, hfailure, -⟩
    have htext : ((fresh "func_call" false).after [finding]).result listing = .ok "old" := by
      decide +kernel
    rw [htext] at hfailure
    cases hfailure

end Stale

end ClientGen.Sandbox
