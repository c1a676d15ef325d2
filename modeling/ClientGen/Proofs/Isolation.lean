import ClientGen.Proofs.Output
import ClientGen.Proofs.Session

/-!
# Isolated overrides

The overrides of a run share one sandbox, so that the text of a service may depend on what was
written before it. If the overrides are isolated, it does not depend on that through the sandbox:
each evaluation starts with a fresh memory (`Sandbox.run_of_isolated`), so isolated sandboxes are
alike for every override, whatever was tried in them and however that ended. What is left of the
history is the state of the template engine. A repeatable template does not go by that either, and
then each text of a run is the one that its service has by itself (`serviceText_isolated`).
-/

set_option autoImplicit false
set_option relaxedAutoImplicit false

namespace ClientGen

open Script

/-! ### Sandboxes -/

namespace Sandbox

theorem run_within {α : Type} (failure : Raised → Failure) (step : Script.Run α)
    (sandbox : Sandbox) : (within failure step).run.run sandbox =
      ((step.run.run sandbox.memory).1.mapError (.ofRaised failure),
        { sandbox with memory := (step.run.run sandbox.memory).2 }) := by
  have hget : (get : Step Sandbox).run.run sandbox = (.ok sandbox, sandbox) := rfl
  unfold within
  rw [run_bind_eq, hget]
  dsimp only
  generalize step.run.run sandbox.memory = outcome
  obtain ⟨result, memory⟩ := outcome
  cases result with
  | error raised => rfl
  | ok value => rfl

theorem run_evaluate (place : String) (script : Script) (sandbox : Sandbox) :
    (evaluate place script).run.run sandbox =
      (within (.evaluation place) (Script.run place script)).run.run
        (if sandbox.isolated then { sandbox with memory := {} } else sandbox) := by
  unfold evaluate
  rw [run_bind_eq]
  rfl

/-- An isolated sandbox runs a script as if it were new. -/
theorem run_of_isolated {sandbox : Sandbox} (h : sandbox.isolated = true) (place : String)
    (script : Script) (arguments : List String) :
    (Sandbox.run place script arguments).run.run sandbox =
      (Sandbox.run place script arguments).run.run { sandbox with memory := {} } := by
  unfold Sandbox.run
  rw [run_bind_eq, run_bind_eq, run_evaluate, run_evaluate, if_pos h, if_pos h]

/-- What a sandbox is set to: whether its overrides are isolated, and how they are called. -/
structure HasSettings (entry : String) (isolated : Bool) (sandbox : Sandbox) : Prop where
  isolated : sandbox.isolated = isolated
  entryPoint : sandbox.entryPoint = entry

section Maintains

variable {entry : String} {isolated : Bool}

theorem within_maintains {α : Type} (failure : Raised → Failure) (step : Script.Run α) :
    Maintains (HasSettings entry isolated) (within failure step) := by
  intro sandbox h
  rw [run_within]
  exact ⟨h.isolated, h.entryPoint⟩

theorem evaluate_maintains (place : String) (script : Script) :
    Maintains (HasSettings entry isolated) (evaluate place script) := by
  intro sandbox h
  rw [run_evaluate]
  refine within_maintains _ _ _ ?_
  split
  · exact ⟨h.isolated, h.entryPoint⟩
  · exact h

theorem invoke_maintains (place : String) (arguments : List String) :
    Maintains (HasSettings entry isolated) (invoke place arguments) := by
  unfold Sandbox.invoke
  refine .bind .get fun sandbox ↦ ?_
  dsimp only
  split
  · exact .throw _
  · exact .throw _
  · split
    · exact .throw _
    · refine .bind (within_maintains _ _) fun value ↦ ?_
      split
      · exact .pure _
      · exact .throw _

/-- Running an override changes the memory at most. -/
theorem run_maintains (place : String) (script : Script) (arguments : List String) :
    Maintains (HasSettings entry isolated) (Sandbox.run place script arguments) :=
  .bind (evaluate_maintains place script) fun _ ↦ invoke_maintains place arguments

end Maintains

/-- A sandbox whose overrides are isolated, and called by a given entry point. -/
abbrev Isolated (entry : String) (sandbox : Sandbox) : Prop :=
  sandbox.HasSettings entry true

/-- Two isolated sandboxes with one entry point, whatever is in their memories. -/
def BothIsolated (entry : String) (first second : Sandbox) : Prop :=
  first.Isolated entry ∧ second.Isolated entry

variable {entry : String}

/-- An isolated override starts anew in any sandbox. -/
theorem run_respects_isolated (place : String) (script : Script) (arguments : List String) :
    Respects (BothIsolated entry) (run place script arguments) where
  result := by
    rintro first second ⟨hfirst, hsecond⟩
    have hnew (sandbox : Sandbox) (h : sandbox.Isolated entry) :
        (run place script arguments).run.run sandbox =
          (run place script arguments).run.run ⟨entry, true, {}⟩ := by
      rw [run_of_isolated h.isolated, h.isolated, h.entryPoint]
    rw [hnew first hfirst, hnew second hsecond]
  next first second h :=
    ⟨run_maintains place script arguments first h.1,
      run_maintains place script arguments second h.2⟩

end Sandbox

/-! ### Histories -/

namespace Client

variable {client : Client} {entry : String} {session : Session} {boxes : Sandbox → Sandbox → Prop}
  {states : Template.State → Template.State → Prop}

/-- What a client writer can be asked for. -/
inductive Task
  | call (call : Record.Call)
  | service (service : Record.Service)

/-- The session after a task, whether the text was written or not. -/
def perform (client : Client) (session : Session) : Task → Session
  | .call call => ((client.callText call).run.run session).2
  | .service service => ((client.serviceText service).run.run session).2

/-- The session after tasks, from the first to the last. -/
def after (client : Client) (session : Session) (tasks : List Task) : Session :=
  tasks.foldl client.perform session

/-- Assumes: neither the overrides nor the template tell apart what is alike. Then sessions that are
alike are so after the same tasks. -/
theorem alike_after
    (hboxes : ∀ place script arguments, Respects boxes (Sandbox.run place script arguments))
    (hstates : ∀ call, Respects states (client.template.render call)) {first second : Session}
    (h : Session.Alike boxes states first second) (tasks : List Task) :
    Session.Alike boxes states (client.after first tasks) (client.after second tasks) := by
  induction tasks generalizing first second with
  | nil => exact h
  | cons task rest ih =>
    refine ih ?_
    cases task with
    | call call => exact (callText_respects hboxes hstates call).next _ _ h
    | service service => exact (serviceText_respects hboxes hstates service).next _ _ h

theorem isolated_after (client : Client) (h : session.sandbox.Isolated entry)
    (tasks : List Task) : (client.after session tasks).sandbox.Isolated entry := by
  have halike : Session.Alike (Sandbox.BothIsolated entry) Eq session session := ⟨⟨h, h⟩, rfl⟩
  have hafter := alike_after Sandbox.run_respects_isolated
    (fun call ↦ Respects.eq (client.template.render call)) halike tasks
  exact hafter.sandbox.1

/-- Assumes: a repeatable template, and two isolated sessions. The texts that are written one after
the other in the first are those that the services have each in the second. -/
theorem rendered_iff_of_isolated (hrepeatable : client.template.Repeatable) {reference : Session}
    (href : reference.sandbox.Isolated entry) (h : session.sandbox.Isolated entry)
    {services : List Record.Service} {texts : List String} :
    client.Rendered session services texts ↔ List.Forall₂ (fun service text ↦
      ((client.serviceText service).run.run reference).1 = .ok text) services texts := by
  induction services generalizing session texts with
  | nil =>
    constructor
    · rintro ⟨⟩
      exact .nil
    · rintro ⟨⟩
      exact .nil
  | cons service services ih =>
    have hrespects : Respects (Session.Alike (Sandbox.BothIsolated entry) fun _ _ ↦ True)
        (client.serviceText service) :=
      serviceText_respects Sandbox.run_respects_isolated hrepeatable.respects service
    have halike : Session.Alike (Sandbox.BothIsolated entry) (fun _ _ ↦ True) session reference :=
      ⟨⟨h, href⟩, trivial⟩
    have hresult := hrespects.result session reference halike
    let cleared : Session :=
      { ((client.serviceText service).run.run session).2 with entries := [] }
    have hcleared : cleared.sandbox.Isolated entry :=
      (hrespects.next session reference halike).sandbox.1
    constructor
    · rintro ⟨⟩
      next next text texts hwritten hrest =>
      rw [hwritten] at hresult
      have hsame : cleared = { next with entries := [] } := by
        simp only [cleared, hwritten]
      exact .cons hresult.symm ((ih hcleared).mp (hsame ▸ hrest))
    · rintro ⟨⟩
      next text texts hwritten hrest =>
      have hrun := eq_mk_of_fst_eq (hresult.trans hwritten)
      exact .cons hrun ((ih hcleared).mpr hrest)

end Client

/-- Assumes: the overrides are isolated. Whatever calls and services were tried before, a service
gets the text, or the failure, that it has at the start with the engine in the state it is in now:
nothing else of the history counts. If the template is repeatable, the state of the engine does not
count either. Then a service gets the text that it has at the start, and the texts of a run are
those that its services have by themselves, whichever these are and in whatever order. -/
theorem serviceText_isolated {settings : Client.Settings} (client : Client)
    (hisolated : settings.isolated = true) :
    (∀ tasks service,
      ((client.serviceText service).run.run (client.after (.start settings) tasks)).1 =
        ((client.serviceText service).run.run { Client.Session.start settings with
          engine := (client.after (.start settings) tasks).engine }).1) ∧
    (client.template.Repeatable →
      (∀ tasks service,
        ((client.serviceText service).run.run (client.after (.start settings) tasks)).1 =
          ((client.serviceText service).run.run (.start settings)).1) ∧
      ∀ services texts, client.Rendered (.start settings) services texts ↔
        List.Forall₂ (fun service text ↦
          ((client.serviceText service).run.run (.start settings)).1 = .ok text)
          services texts) := by
  have hstart : (Client.Session.start settings).sandbox.Isolated "func_call" := ⟨hisolated, rfl⟩
  have hafter (tasks : List Client.Task) :
      (client.after (.start settings) tasks).sandbox.Isolated "func_call" :=
    client.isolated_after hstart tasks
  have hboxes (place : String) (script : Script) (arguments : List String) :
      Respects (Sandbox.BothIsolated "func_call") (Sandbox.run place script arguments) :=
    Sandbox.run_respects_isolated place script arguments
  refine ⟨fun tasks service ↦ ?_, fun hrepeatable ↦ ⟨fun tasks service ↦ ?_,
    fun services texts ↦ Client.rendered_iff_of_isolated hrepeatable hstart hstart⟩⟩
  · have hrespects := Client.serviceText_respects hboxes
      (fun call ↦ Respects.eq (client.template.render call)) service
    exact hrespects.result _ _ ⟨⟨hafter tasks, hstart⟩, rfl⟩
  · have hrespects := Client.serviceText_respects hboxes hrepeatable.respects service
    exact hrespects.result _ _ ⟨⟨hafter tasks, hstart⟩, trivial⟩

namespace Leftovers

/-- An override that defines a helper and calls it. -/
def defining : Script :=
  [.define "shout" ["text"] none [.give (.upper (.name "text"))] [],
    .define "func_call" ["comment", "name"] (some "rest") [.give (.call "shout" [.name "name"])] []]

/-- An override that only calls the helper. -/
def relying : Script :=
  [.define "func_call" ["comment", "name"] (some "rest") [.give (.call "shout" [.name "name"])] []]

/-- The writer of calls with the two overrides. -/
def client : Client where
  imports := .ok []
  template := .ofNodes [.text ""]
  overrides := [("Define", defining), ("Use", relying)]
  ownComments := false

/-- Settings for the two overrides, isolated or not. -/
def settings (isolated : Bool) : Client.Settings :=
  .ofConfig { methodTemplate := "", overrides := client.overrides, isolateOverrides := isolated }

/-- A call that defines the helper. -/
def define : Record.Call :=
  ⟨"Define", "GET", "/define", "Request", "Response", ""⟩

/-- A service with a call that only uses the helper. -/
def service : Record.Service where
  name := "Users"
  comment := ""
  calls := [⟨"Use", "GET", "/use", "Request", "Response", ""⟩]
  messages := []
  enums := []

/-- The failure of the helper where it is not defined. -/
def failure : Client.Failure :=
  .override (.call "func_calls[Use]" (.unknownName "shout"))

theorem ofSettings_eq (isolated : Bool) : Client.ofSettings (settings isolated) = .ok client := by
  rfl

theorem serviceText_start :
    ((client.serviceText service).run.run (.start (settings true))).1 = .error failure := by
  decide +kernel

theorem helper_forgotten :
    (settings true).isolated = true ∧ Client.ofSettings (settings true) = .ok client ∧
      client.template.Repeatable ∧ ((client.serviceText service).run.run
        (client.after (.start (settings true)) [.call define, .service service])).1 =
          .error failure ∧
      ∀ texts, ¬client.Rendered (.start (settings true)) [service] texts := by
  have hisolated : (settings true).isolated = true := rfl
  have hrepeatable : client.template.Repeatable := Template.Renderer.repeatable_ofNodes _
  obtain ⟨hhistory, hrendered⟩ := (serviceText_isolated client hisolated).2 hrepeatable
  refine ⟨hisolated, ofSettings_eq true, hrepeatable, ?_, fun texts htexts ↦ ?_⟩
  · rw [hhistory]
    exact serviceText_start
  · cases (hrendered [service] texts).mp htexts with
    | cons htext _ =>
      rw [serviceText_start] at htext
      cases htext

end Leftovers

/-- A shared sandbox still has the helper. -/
example : ((Leftovers.client.serviceText Leftovers.service).run.run
    (Leftovers.client.after (.start (Leftovers.settings false)) [.call Leftovers.define])).1 =
      .ok "USE\n" := by
  decide +kernel

/-- A template that numbers the calls is not repeatable, and isolation does not make it so. -/
example :
    let numbering : Client :=
      { Leftovers.client with
        template := ⟨fun _ ↦ do
          let count ← get
          set (count + 1)
          return toString count⟩
        overrides := [] }
    let start := Client.Session.start (Leftovers.settings true)
    ((numbering.serviceText Leftovers.service).run.run start).1 = .ok "0\n" ∧
      ((numbering.serviceText Leftovers.service).run.run
        (numbering.after start [.call Leftovers.define])).1 = .ok "1\n" := by
  decide +kernel

end ClientGen
