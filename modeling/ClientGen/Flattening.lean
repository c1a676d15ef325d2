import ClientGen.Flattening.Walk
import ClientGen.Route

/-!
# Flattening a service

`flatten` turns a service into records: its methods in order, each usable one reaching its input and
then its output. A method is usable if it streams in neither direction and has a route; any other
leaves nothing but an event. The result carries the table of messages, and the events of the run.
-/

set_option autoImplicit false
set_option relaxedAutoImplicit false

namespace ClientGen

namespace Flattening

namespace Context

/-- Walks a message and all it reaches, if it has no flat name yet. -/
def walkMessage (c : Context) (message : Declaration.Message) (s : State) : Except Halt State := do
  let (_, frame, s) ← c.reachMessage message none s
  c.drain { s with stack := frame.toList ++ s.stack }

/-- Walks the input and output of a method and appends its call. -/
def walkRoute (c : Context) (method : Declaration.Method) (route : Route)
    (input output : Declaration.Message) (s : State) : Except Halt State := do
  let s ← c.walkMessage input s
  let s ← c.walkMessage output s
  return { s with calls := s.calls ++ [{
    name := method.name
    verb := route.verb.text
    path := route.path
    request := input.name
    response := output.name
    comment := method.comment }] }

/-- Walks a method. -/
def walkMethod (c : Context) (s : State) (method : Declaration.Method) : Except Halt State :=
  if method.clientStreaming || method.serverStreaming then
    .ok (s.note (.streaming c.service method.name))
  else match Route.ofRule? method.rule with
    | none => .ok (s.note (.unrouted c.service method.name))
    | some route =>
      match c.schema.message? method.input, c.schema.message? method.output with
      | some input, some output => c.walkRoute method route input output s
      | _, _ => .ok s

end Context

/-- A flattened service. -/
structure Result where
  service : Record.Service
  visits : List Visit
  events : List Event
  deriving DecidableEq, Repr

/-- The result of a finished run on a service. -/
def State.result (s : State) (service : Declaration.Service) : Result where
  service := {
    name := service.name
    comment := service.comment
    calls := s.calls
    messages := s.messages
    enums := s.enums }
  visits := s.visits
  events := s.events

end Flattening

open Flattening in
/-- Flattens a service of a schema. A strict run stops at the first collision. -/
def flatten (schema : Schema) (strict : Bool) (service : Declaration.Service) :
    Except Halt Result :=
  let c : Context := ⟨schema, service.name, strict⟩
  (service.methods.foldlM c.walkMethod {}).map fun s ↦ s.result service

end ClientGen
