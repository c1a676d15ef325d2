import ClientGen.Script.Value

/-!
# Variables of scripts

Scripts work over a memory: the variables of the namespace, and for each call its own ones. In the
body of a function, a name that the body binds is local, unless the function lists it among its
globals. Any other name belongs to the innermost call around the definition of the function that has
it as a local, and else to the namespace. What the namespace lacks is looked up in the library.
-/

set_option autoImplicit false
set_option relaxedAutoImplicit false

namespace ClientGen.Script

/-- The variables of a call: its local names, the values of those that have one, the names it takes
from the namespace, and the calls around the definition of its function. -/
structure Frame where
  function : String
  locals : List String
  globals : List String
  enclosing : List Nat
  bindings : Bindings

/-- The variables of the namespace and of all calls so far. -/
structure Memory where
  bindings : Bindings := .fresh
  frames : Array Frame := #[]

/-- A step over a memory, which keeps it if it fails. -/
abbrev Run := ExceptT Raised (StateM Memory)

/-- Where statements run: at the top level, or in a call. -/
inductive Scope
  | top
  | call (frame : Nat)
  deriving DecidableEq, Repr

/-- Where a variable is kept: in the namespace, in the running call, or in one around the definition
of its function. -/
inductive Place
  | shared
  | own (frame : Nat)
  | outer (frame : Nat)
  deriving DecidableEq, Repr

namespace Memory

/-- Where the calls around a definition keep a name. -/
def placeAround (memory : Memory) (name : String) : List Nat → Place
  | [] => .shared
  | id :: rest =>
    match memory.frames[id]? with
    | none => .shared
    | some frame =>
      if frame.locals.contains name then .outer id
      else if frame.globals.contains name then .shared
      else memory.placeAround name rest

/-- Where a name is kept. -/
def place (memory : Memory) (name : String) : Scope → Place
  | .top => .shared
  | .call id =>
    match memory.frames[id]? with
    | none => .shared
    | some frame =>
      if frame.locals.contains name then .own id
      else if frame.globals.contains name then .shared
      else memory.placeAround name frame.enclosing

/-- The value of a variable of a call. -/
def inFrame? (memory : Memory) (id : Nat) (name : String) : Option Value :=
  memory.frames[id]?.bind (·.bindings.get? name)

/-- Changes the variables of a call. -/
def changeFrame (memory : Memory) (id : Nat) (change : Bindings → Bindings) : Memory :=
  { memory with
    frames := memory.frames.modify id fun frame ↦
      { frame with bindings := change frame.bindings } }

end Memory

namespace Scope

/-- The value of a name. -/
def value (name : String) (scope : Scope) : Run Value := do
  let memory ← get
  match memory.place name scope with
  | .shared =>
    match (memory.bindings.get? name).or (libraryValue? name) with
    | some value => return value
    | none => throw (.unknownName name)
  | .own id =>
    match memory.inFrame? id name with
    | some value => return value
    | none => throw (.unboundLocal name)
  | .outer id =>
    match memory.inFrame? id name with
    | some value => return value
    | none => throw (.unboundOutside name)

/-- Sets a name. A name that a call sets is its own or shared. -/
def assign (name : String) (value : Value) (scope : Scope) : Run Unit :=
  modify fun memory ↦
    match memory.place name scope with
    | .own id => memory.changeFrame id (·.set name value)
    | _ => { memory with bindings := memory.bindings.set name value }

/-- Removes a name, which has to have a value. -/
def delete (name : String) (scope : Scope) : Run Unit := do
  let memory ← get
  match memory.place name scope with
  | .own id =>
    if (memory.inFrame? id name).isNone then throw (.unboundLocal name)
    set (memory.changeFrame id (·.erase name))
  | _ =>
    if (memory.bindings.get? name).isNone then throw (.unknownName name)
    set { memory with bindings := memory.bindings.erase name }

/-- The name that a function defined under a name shows: a local one is told apart by the function
around it. -/
def shownName (memory : Memory) (name : String) : Scope → String
  | top => name
  | call id =>
    match memory.frames[id]? with
    | some frame =>
      if frame.locals.contains name then frame.function ++ ".<locals>." ++ name else name
    | none => name

/-- The calls around a definition. -/
def around (memory : Memory) : Scope → List Nat
  | top => []
  | call id => id :: ((memory.frames[id]?.map (·.enclosing)).getD [])

end Scope

end ClientGen.Script
