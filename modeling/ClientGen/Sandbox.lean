import ClientGen.Script.Evaluation

/-!
# Sandboxes

A sandbox evaluates scripts in one namespace after the other's leavings, or each in a fresh
namespace if it is isolated, and calls the function that a script left under the name of the entry
point. The function has to give a text.
-/

set_option autoImplicit false
set_option relaxedAutoImplicit false

namespace ClientGen

open ClientGen.Text Script

/-- A sandbox with the memory of its scripts. -/
structure Sandbox where
  entryPoint : String := "func_call"
  isolated : Bool := false
  memory : Memory := {}

namespace Sandbox

/-- Why a sandbox gives no text, for the script at a place; `ending` is an error that ends the whole
program. -/
inductive Failure
  | evaluation (place : String) (raised : Raised)
  | undefinedEntry (place entry : String)
  | notFunction (place entry : String)
  | call (place : String) (raised : Raised)
  | notText (place entry type : String)
  | ending (kind : Kind) (message : String)
  deriving DecidableEq, Repr

/-- The report of a failure. -/
def Failure.message : Failure → String
  | evaluation place raised => "Failed to evaluate override " ++ place ++ ": " ++ raised.text
  | undefinedEntry place entry => "Override " ++ place ++ " does not define '" ++ entry ++ "'"
  | notFunction place entry => "Override " ++ place ++ ": '" ++ entry ++ "' is not a function"
  | call place raised => "Override " ++ place ++ " raised " ++ raised.text
  | notText place entry type =>
    "Override " ++ place ++ ": '" ++ entry ++ "' must return str, got " ++ type
  | ending _ message => message

/-- The failure for an error, unless the error ends the whole program. -/
def Failure.ofRaised (failure : Raised → Failure) (raised : Raised) : Failure :=
  match raised.ending? with
  | some (kind, message) => .ending kind message
  | none => failure raised

/-- A step of a sandbox, which keeps the namespace if it fails. -/
abbrev Step := ExceptT Failure (StateM Sandbox)

/-- Runs a step of a script in the memory of the sandbox. -/
def within {α : Type} (failure : Raised → Failure) (step : Script.Run α) : Step α := do
  let sandbox ← get
  let (result, memory) := step.run.run sandbox.memory
  set { sandbox with memory := memory }
  match result with
  | .ok value => return value
  | .error raised => throw (.ofRaised failure raised)

/-- Evaluates a script. An isolated sandbox starts with a fresh memory, also if the script cannot be
read. -/
def evaluate (place : String) (script : Script) : Step Unit := do
  modify fun sandbox ↦
    if sandbox.isolated then { sandbox with memory := {} } else sandbox
  within (.evaluation place) (Script.run place script)

/-- Calls the entry point. A value that is nothing counts as undefined. -/
def invoke (place : String) (arguments : List String) : Step String := do
  let sandbox ← get
  let entry := sandbox.entryPoint
  match sandbox.memory.bindings.get? entry with
  | none | some .nothing => throw (.undefinedEntry place entry)
  | some callee =>
    if !callee.isCallable then throw (.notFunction place entry)
    let value ← within (.call place) (Script.invoke callee (arguments.map .text))
    match value with
    | .text text => return text
    | value => throw (.notText place entry value.typeName)

/-- Evaluates a script and calls the entry point. -/
def run (place : String) (script : Script) (arguments : List String) : Step String := do
  evaluate place script
  invoke place arguments

end Sandbox

end ClientGen
