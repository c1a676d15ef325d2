import ClientGen.Client.Settings
import ClientGen.Log
import ClientGen.Sandbox
import ClientGen.Template.Engine
import ClientGen.TypeScript.Declarations

/-!
# Clients

The TypeScript text of flat services. A call is written by its override if it has one, or else from
the template; interfaces and enums follow the calls. The overrides of a run share one sandbox, and
its templates the state of their engine.
-/

set_option autoImplicit false
set_option relaxedAutoImplicit false

namespace ClientGen

/-- How clients are written. -/
structure Client where
  imports : Except Mismatch (List String)
  template : Template.Renderer
  overrides : List (String × Script)
  ownComments : Bool

namespace Client

/-- Why there is no client writer. -/
inductive Refusal
  | template (fault : Template.Fault)
  | mismatch (cause : Mismatch)
  deriving DecidableEq, Repr

/-- The client writer of settings, if their template can be read. -/
def ofSettings (settings : Settings) : Except Refusal Client := do
  let written ← settings.template.mapError .mismatch
  return {
    imports := settings.imports
    template := ← (settings.engine.read written).mapError .template
    overrides := settings.overrides
    ownComments := settings.ownComments }

/-- Why a client cannot be written. -/
inductive Failure
  | override (failure : Sandbox.Failure)
  | template (failure : Template.Failure)
  | mismatch (cause : Mismatch)
  deriving DecidableEq, Repr

/-- The report of a failure. -/
def Failure.message : Failure → String
  | override failure => failure.message
  | template failure => failure.message
  | mismatch cause => cause.message

/-- What writing changes: the sandbox, the state of the engine, and the log. -/
structure Session where
  sandbox : Sandbox
  engine : Template.State := 0
  entries : List LogEntry := []

/-- The state before anything is written. -/
def Session.start (settings : Settings) : Session :=
  { sandbox := { isolated := settings.isolated } }

/-- A step of writing, which keeps its state if it fails. -/
abbrev Step := ExceptT Failure (StateM Session)

/-- Runs a step that works on a part of the session. -/
def onPart {σ ε α : Type} (part : Session → σ) (put : Session → σ → Session)
    (failure : ε → Failure) (step : ExceptT ε (StateM σ) α) : Step α := do
  let session ← get
  let (result, next) := step.run.run (part session)
  set (put session next)
  match result with
  | .ok value => return value
  | .error found => throw (failure found)

/-- Runs a step of the sandbox. -/
def inSandbox {α : Type} (step : Sandbox.Step α) : Step α :=
  onPart Session.sandbox (fun session sandbox ↦ { session with sandbox := sandbox }) .override step

/-- Runs a step of the engine. -/
def inEngine {α : Type} (step : Template.Step α) : Step α :=
  onPart Session.engine (fun session engine ↦ { session with engine := engine }) .template step

/-- The text of a call. -/
def callText (client : Client) (call : Record.Call) : Step String :=
  match client.overrides.lookup call.name with
  | some script => do
    modify fun session ↦ { session with
      entries := session.entries ++ [⟨.debug, "Using override for " ++ call.name⟩] }
    inSandbox <| Sandbox.run ("func_calls[" ++ call.name ++ "]") script
      [call.comment, call.name, call.request, call.response, call.verb, call.path]
  | none => inEngine (client.template.render call)

/-- The text of an interface. -/
def messageText (client : Client) (message : Record.Message) : String :=
  TypeScript.interfaceText client.ownComments message

/-- The text of an enum. -/
def enumText (client : Client) (enum : Record.Enum) : String :=
  TypeScript.enumText client.ownComments enum

/-- The lines in front of everything, followed by an empty one if there are any. -/
def preamble (lines : List String) : String :=
  if lines.isEmpty then "" else TypeScript.unlines lines ++ "\n"

/-- The texts of calls, from the first to the last. -/
def callTexts (client : Client) : List Record.Call → Step (List String)
  | [] => pure []
  | call :: rest => do
    let text ← client.callText call
    return text :: (← client.callTexts rest)

/-- The text of a service. -/
def serviceText (client : Client) (service : Record.Service) : Step String := do
  let lines ← match client.imports with
    | .ok lines => pure lines
    | .error cause => throw (.mismatch cause)
  let calls ← client.callTexts service.calls
  return preamble lines ++ TypeScript.unlines calls ++
    TypeScript.unlines (service.messages.map client.messageText) ++
    TypeScript.unlines (service.enums.map client.enumText)

end Client

end ClientGen
