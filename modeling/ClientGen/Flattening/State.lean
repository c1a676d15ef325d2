import ClientGen.Flattening.Report
import ClientGen.Record

/-!
# The state of a flattening run

A run keeps the flat names given so far by full name, who owns each flat name, the records finished
so far, and a stack of messages whose fields are still being walked. A message takes its flat name
when its walk begins and its record is appended when the walk ends.
-/

set_option autoImplicit false
set_option relaxedAutoImplicit false

namespace ClientGen.Flattening

/-- What stays fixed in a run. -/
structure Context where
  schema : Schema
  service : String
  strict : Bool

/-- The message that owns a flat name, and how many records were finished when its walk began. -/
structure Visit where
  name : String
  owner : String
  index : Nat
  deriving DecidableEq, Repr

/-- A message whose fields are being walked. -/
structure Frame where
  name : String
  comment : String
  done : List Record.Field
  pending : List Declaration.Field
  deriving DecidableEq, Repr

/-- The frame of a message at the start of its walk. -/
def Frame.start (name : String) (message : Declaration.Message) : Frame :=
  ⟨name, message.comment, [], message.fields⟩

/-- The record of a message whose fields are all walked. -/
def Frame.record (frame : Frame) : Record.Message :=
  ⟨frame.name, frame.comment, frame.done⟩

/-- The state of a run. `given` lists full names with their flat names, `enumOwners` flat names with
the full names of the enums that own them. -/
structure State where
  given : List (String × String) := []
  visits : List Visit := []
  enumOwners : List (String × String) := []
  messages : List Record.Message := []
  enums : List Record.Enum := []
  calls : List Record.Call := []
  events : List Event := []
  stack : List Frame := []
  deriving DecidableEq, Repr

namespace State

/-- The flat name a type was given. -/
def flatName? (s : State) (fullName : String) : Option String :=
  s.given.lookup fullName

/-- The message that owns a flat name. -/
def visit? (s : State) (name : String) : Option Visit :=
  s.visits.find? fun visit ↦ visit.name = name

/-- The enum that owns a flat name. -/
def enumOwner? (s : State) (name : String) : Option String :=
  s.enumOwners.lookup name

/-- Gives a flat name to a type. -/
def give (s : State) (fullName name : String) : State :=
  { s with given := s.given ++ [(fullName, name)] }

/-- Adds an event. -/
def note (s : State) (event : Event) : State :=
  { s with events := s.events ++ [event] }

/-- Stops a run. -/
def halt {α : Type} (s : State) (failure : Failure) : Except Halt α :=
  .error ⟨failure, s.events⟩

end State

namespace Context

/-- Reports a collision: a strict run stops, any other notes it and goes on. -/
def report (c : Context) (report : Report) (s : State) : Except Halt State :=
  if c.strict then s.halt (.collision report) else .ok (s.note (.collision report))

/-- Gives a message a flat name. The first message under a name owns it. -/
def claimMessage (c : Context) (fullName name : String) (s : State) : Except Halt State :=
  match s.visit? name with
  | some visit => c.report (.shared .message name c.service visit.owner fullName)
      (s.give fullName name)
  | none =>
    let s := { s.give fullName name with
      visits := s.visits ++ [⟨name, fullName, s.messages.length⟩] }
    match s.enumOwner? name with
    | some other => c.report (.mixed name c.service other fullName) s
    | none => .ok s

/-- Gives an enum a flat name. The first enum under a name owns it. -/
def claimEnum (c : Context) (fullName name : String) (s : State) : Except Halt State :=
  match s.enumOwner? name with
  | some owner => c.report (.shared .enum name c.service owner fullName) (s.give fullName name)
  | none =>
    let s := { s.give fullName name with enumOwners := s.enumOwners ++ [(name, fullName)] }
    match s.visit? name with
    | some visit => c.report (.mixed name c.service visit.owner fullName) s
    | none => .ok s

end Context

/-- The flat name of a type reached from a field of the message named `around`, or from a call: a
nested type reached from a field has that name in front. -/
def flatName (name : String) (parent around : Option String) : String :=
  match around, parent with
  | some around, some _ => around ++ "_" ++ name
  | _, _ => name

end ClientGen.Flattening
