import ClientGen.Client
import ClientGen.Proofs.Results

/-!
# What writing goes by

A text is written in a session: the sandbox of the overrides and the state of the template engine
go from one text to the next. Let a relation say which sandboxes count as alike, and another one
which states do. A step respects a relation if it cannot tell related states apart: it gives the
same in both, and leaves related ones (`Respects`). This composes, and each step on a state respects
equality. If the overrides and the template of a client respect the two relations, so does every
step of writing (`Client.serviceText_respects`), since nothing else in a session is looked at, the
log included.
-/

set_option autoImplicit false
set_option relaxedAutoImplicit false

namespace ClientGen

/-- A step gives the same in related states, and leaves related ones. -/
structure Respects {ε σ α : Type} (related : σ → σ → Prop) (step : ExceptT ε (StateM σ) α) :
    Prop where
  result : ∀ first second, related first second →
    (step.run.run first).1 = (step.run.run second).1
  next : ∀ first second, related first second →
    related (step.run.run first).2 (step.run.run second).2

namespace Respects

variable {ε σ α β : Type} {related : σ → σ → Prop}

theorem pure (a : α) : Respects related (pure a : ExceptT ε (StateM σ) α) where
  result _ _ _ := rfl
  next _ _ h := h

theorem throw (failure : ε) : Respects related (throw failure : ExceptT ε (StateM σ) α) where
  result _ _ _ := rfl
  next _ _ h := h

theorem modify {f : σ → σ} (h : ∀ first second, related first second →
      related (f first) (f second)) :
    Respects related (modify f : ExceptT ε (StateM σ) PUnit) where
  result _ _ _ := rfl
  next := h

/-- A step and one that goes on with its result. -/
theorem bind {x : ExceptT ε (StateM σ) α} {f : α → ExceptT ε (StateM σ) β}
    (hx : Respects related x) (hf : ∀ a, Respects related (f a)) : Respects related (x >>= f) := by
  have hboth : ∀ first second, related first second →
      ((x >>= f).run.run first).1 = ((x >>= f).run.run second).1 ∧
        related ((x >>= f).run.run first).2 ((x >>= f).run.run second).2 := by
    intro first second h
    have hsame := hx.result first second h
    have hnext := hx.next first second h
    rw [run_bind_eq, run_bind_eq]
    generalize x.run.run first = firstOutcome at hsame hnext
    generalize x.run.run second = secondOutcome at hsame hnext
    obtain ⟨result, firstNext⟩ := firstOutcome
    obtain ⟨secondResult, secondNext⟩ := secondOutcome
    obtain rfl : result = secondResult := hsame
    cases result with
    | error failure => exact ⟨rfl, hnext⟩
    | ok a => exact ⟨(hf a).result _ _ hnext, (hf a).next _ _ hnext⟩
  exact ⟨fun first second h ↦ (hboth first second h).1, fun first second h ↦ (hboth first second h).2⟩

/-- Equal states are the same. -/
protected theorem eq (step : ExceptT ε (StateM σ) α) : Respects Eq step where
  result _ _ h := h ▸ rfl
  next _ _ h := h ▸ rfl

end Respects

/-- A repeatable template goes by the call, whatever the state of its engine. -/
theorem Template.Renderer.Repeatable.respects {template : Renderer} (h : template.Repeatable)
    (call : Record.Call) : Respects (fun _ _ ↦ True) (template.render call) where
  result first second _ := h call first second
  next _ _ _ := trivial

namespace Client

variable {α : Type} {client : Client} {boxes : Sandbox → Sandbox → Prop}
  {states : Template.State → Template.State → Prop}

/-- Two sessions whose sandboxes and states are alike, with whatever logs. -/
structure Session.Alike (boxes : Sandbox → Sandbox → Prop)
    (states : Template.State → Template.State → Prop) (first second : Session) : Prop where
  sandbox : boxes first.sandbox second.sandbox
  engine : states first.engine second.engine

theorem run_onPart {σ ε : Type} (part : Session → σ) (put : Session → σ → Session)
    (failure : ε → Failure) (step : ExceptT ε (StateM σ) α) (session : Session) :
    (onPart part put failure step).run.run session =
      ((step.run.run (part session)).1.mapError failure,
        put session (step.run.run (part session)).2) := by
  have hget : (get : Step Session).run.run session = (.ok session, session) := rfl
  unfold onPart
  rw [run_bind_eq, hget]
  dsimp only
  generalize step.run.run (part session) = outcome
  obtain ⟨result, next⟩ := outcome
  cases result with
  | error found => rfl
  | ok value => rfl

theorem run_inSandbox (step : Sandbox.Step α) (session : Session) :
    (inSandbox step).run.run session =
      ((step.run.run session.sandbox).1.mapError .override,
        { session with sandbox := (step.run.run session.sandbox).2 }) :=
  run_onPart ..

theorem run_inEngine (step : Template.Step α) (session : Session) :
    (inEngine step).run.run session =
      ((step.run.run session.engine).1.mapError .template,
        { session with engine := (step.run.run session.engine).2 }) :=
  run_onPart ..

theorem inSandbox_respects {step : Sandbox.Step α} (hstep : Respects boxes step) :
    Respects (Session.Alike boxes states) (inSandbox step) where
  result first second h := by
    rw [run_inSandbox, run_inSandbox, hstep.result _ _ h.sandbox]
  next first second h := by
    rw [run_inSandbox, run_inSandbox]
    exact ⟨hstep.next _ _ h.sandbox, h.engine⟩

theorem inEngine_respects {step : Template.Step α} (hstep : Respects states step) :
    Respects (Session.Alike boxes states) (inEngine step) where
  result first second h := by
    rw [run_inEngine, run_inEngine, hstep.result _ _ h.engine]
  next first second h := by
    rw [run_inEngine, run_inEngine]
    exact ⟨h.sandbox, hstep.next _ _ h.engine⟩

section Texts

variable (hboxes : ∀ place script arguments, Respects boxes (Sandbox.run place script arguments))
  (hstates : ∀ call, Respects states (client.template.render call))

include hboxes hstates

theorem callText_respects (call : Record.Call) :
    Respects (Session.Alike boxes states) (client.callText call) := by
  unfold callText
  split
  · exact .bind (.modify fun _ _ h ↦ ⟨h.sandbox, h.engine⟩) fun _ ↦
      inSandbox_respects (hboxes _ _ _)
  · exact inEngine_respects (hstates call)

theorem callTexts_respects (calls : List Record.Call) :
    Respects (Session.Alike boxes states) (client.callTexts calls) := by
  induction calls with
  | nil => exact .pure []
  | cons call rest ih =>
    rw [callTexts]
    exact (callText_respects hboxes hstates call).bind fun _ ↦ ih.bind fun _ ↦ .pure _

/-- Assumes: the overrides do not tell sandboxes apart that are alike, and the template does not
tell such states apart. Then neither does the text of a service. -/
theorem serviceText_respects (service : Record.Service) :
    Respects (Session.Alike boxes states) (client.serviceText service) := by
  have hcalls := callTexts_respects hboxes hstates service.calls
  unfold serviceText
  split
  · exact .bind (.pure _) fun _ ↦ hcalls.bind fun _ ↦ .pure _
  · exact .bind (.throw _) fun _ ↦ hcalls.bind fun _ ↦ .pure _

end Texts

end Client

end ClientGen
