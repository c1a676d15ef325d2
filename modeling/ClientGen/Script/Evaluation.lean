import ClientGen.Script.Memory
import ClientGen.Text.Case

/-!
# Running scripts

Scripts run over a memory, and what a script has set stays set when it fails. Calls nest up to a
limit; a method or the making of an error needs room for a call as well.
-/

set_option autoImplicit false
set_option relaxedAutoImplicit false

namespace ClientGen.Script

open ClientGen.Text

/-- A call of a value with arguments. -/
abbrev Invoke := Value → List Value → Run Value

/-- An error of a kind. -/
def Kind.make (kind : Kind) (arguments : List Value) : Run Value :=
  match kind.arity? with
  | some (owner, needed) =>
    if arguments.length = needed then pure (.error kind arguments)
    else throw (.notExactly owner needed arguments.length)
  | none => pure (.error kind arguments)

/-- Where code runs, with the calls it can make and the number of calls that still fit in. -/
structure Setting where
  scope : Scope
  invoke : Invoke
  room : Nat

/-- A step that needs room for a call. -/
def Setting.within {α : Type} (setting : Setting) (step : Run α) : Run α :=
  if setting.room = 0 then throw (.tooDeep false) else step

/-- Changes the letters of a text by a method. -/
def changeText (setting : Setting) (method : String) (change : List Char → List Char) :
    Value → Run Value
  | .text s => setting.within (pure (.text (String.ofList (change s.toList))))
  | value => throw (.noMethod value.owner method)

/-- Joins texts, counting the values from the given index. -/
def joinTexts (index : Nat) : List Value → Run String
  | [] => pure ""
  | .text s :: rest => (s ++ ·) <$> joinTexts (index + 1) rest
  | value :: _ => throw (.notText index value.typeName)

mutual

/-- The value of an expression. A callee is looked up before its arguments. -/
def Expr.run (setting : Setting) : Expr → Run Value
  | .literal value => pure value.value
  | .name name => setting.scope.value name
  | .upper body => do changeText setting "upper" upper (← body.run setting)
  | .lower body => do changeText setting "lower" lower (← body.run setting)
  | .call callee arguments => do
    let callee ← setting.scope.value callee
    setting.invoke callee (← runAll setting arguments)
  | .concat parts => do
    let values ← runAll setting parts
    setting.within (Value.text <$> joinTexts 0 values)

/-- The values of expressions, from the first to the last. -/
def runAll (setting : Setting) : List Expr → Run (List Value)
  | [] => pure []
  | part :: rest => do
    let value ← part.run setting
    return value :: (← runAll setting rest)

end

/-- Raises a value: an error, or an error of a kind made without arguments. -/
def raise (setting : Setting) : Value → Run Unit
  | .error kind arguments => throw (.thrown kind (Value.printError kind arguments))
  | .kind kind => setting.within do
    let _ ← kind.make []
    throw (.thrown kind (Value.printError kind []))
  | _ => throw .noError

/-- Runs statements up to the first one that gives a value. -/
def runBody (setting : Setting) : List Stmt → Run (Option Value)
  | [] => pure none
  | .define name parameters rest body globals :: stmts => do
    let memory ← get
    let function : Function :=
      { name := setting.scope.shownName memory name
        parameters := parameters
        rest := rest
        body := body
        globals := globals
        enclosing := setting.scope.around memory }
    setting.scope.assign name (.function function)
    runBody setting stmts
  | .assign name value :: stmts => do
    setting.scope.assign name (← value.run setting)
    runBody setting stmts
  | .delete name :: stmts => do
    setting.scope.delete name
    runBody setting stmts
  | .give value :: _ => some <$> value.run setting
  | .fail error :: stmts => do
    raise setting (← error.run setting)
    runBody setting stmts
  | .broken _ :: stmts => runBody setting stmts

namespace Function

/-- The names that the body binds as locals. -/
def localNames (function : Function) : List String :=
  function.parameters ++ function.rest.toList ++
    (function.body.filterMap fun
      | .define name .. | .assign name _ | .delete name => some name
      | _ => none).filter fun name ↦ !function.globals.contains name

/-- The variables at the start of a call. -/
def bind (function : Function) (arguments : List Value) : Except Raised Bindings :=
  let allowed := function.parameters.length
  if arguments.length < allowed then
    .error (.tooFew function.name (function.parameters.drop arguments.length))
  else
    let bindings := function.parameters.zip arguments
    match function.rest with
    | some rest => .ok (bindings ++ [(rest, .tuple (arguments.drop allowed))])
    | none =>
      if allowed < arguments.length then
        .error (.tooMany function.name allowed arguments.length)
      else .ok bindings

/-- Starts a call: its variables are put into the memory. -/
def enter (function : Function) (arguments : List Value) : Run Scope := do
  let bindings ← function.bind arguments
  let memory ← get
  set { memory with
    frames := memory.frames.push
      { function := function.name
        locals := function.localNames
        globals := function.globals
        enclosing := function.enclosing
        bindings := bindings } }
  return .call memory.frames.size

end Function

/-- A call, where calls may nest up to the given depth. A body that gives no value gives nothing. -/
def invokeWithin : Nat → Invoke
  | depth + 1, .function function, arguments => do
    let scope ← function.enter arguments
    let given ← runBody ⟨scope, invokeWithin depth, depth⟩ function.body
    return given.getD .nothing
  | _ + 1, .kind kind, arguments => kind.make arguments
  | 0, .function _, _ => throw (.tooDeep true)
  | 0, .kind _, _ => throw (.tooDeep false)
  | _, value, _ => throw (.notCallable value.typeName)

/-- The depth of nested calls. -/
def depthLimit : Nat := 990

/-- A call from outside a script. -/
def invoke : Invoke :=
  invokeWithin depthLimit

/-- Runs a script, unless it cannot be read. -/
def run (place : String) (script : Script) : Run Unit := do
  match fault? script with
  | some (fault, line) => throw (.unreadable fault place line)
  | none =>
    modify fun memory ↦ { memory with bindings := memory.bindings.withLibrary }
    let _ ← runBody ⟨.top, invoke, depthLimit⟩ script
    return ()

end ClientGen.Script
