import ClientGen.Declaration.Linking
import ClientGen.Log

/-!
# Collision reports

Two types of a service may end up under one flat name. `Report` says how, `Event` is what a
flattening run notes on its way, and `Halt` is how a run stops early.
-/

set_option autoImplicit false
set_option relaxedAutoImplicit false

namespace ClientGen.Flattening

/-- A collision: two types of one kind share a flat name, of which the first keeps it; or a message
and an enum do, and both are kept. -/
inductive Report
  | shared (kind : TypeKind) (name service first second : String)
  | mixed (name service other claimant : String)
  deriving DecidableEq, Repr

/-- A full name without its leading dots. -/
def bareName (fullName : String) : String :=
  String.ofList (fullName.toList.dropWhile (· = '.'))

/-- The text of a report. -/
def Report.message : Report → String
  | .shared kind name service first second =>
    "Flattened name '" ++ name ++ "' in service '" ++ service ++ "' is used by both " ++
      kind.word ++ "s '" ++ bareName first ++ "' and '" ++ bareName second ++
      "'; keeping the first"
  | .mixed name service other claimant =>
    "Flattened name '" ++ name ++ "' in service '" ++ service ++
      "' names both a message and an enum ('" ++ bareName other ++ "' and '" ++
      bareName claimant ++ "'); both declarations are emitted"

/-- What a run notes: a method left out because it streams or has no route, or a collision. -/
inductive Event
  | streaming (service method : String)
  | unrouted (service method : String)
  | collision (report : Report)
  deriving DecidableEq, Repr

/-- The log entry of an event. -/
def Event.entry : Event → LogEntry
  | .streaming service method => ⟨.debug, "Skipping streaming method " ++ service ++ "." ++ method⟩
  | .unrouted service method =>
    ⟨.debug, "Skipping " ++ service ++ "." ++ method ++ ": no supported google.api.http rule"⟩
  | .collision report => ⟨.warning, report.message⟩

/-- Why a run fails: a collision that a strict run refuses, or a map entry with fewer than two
fields. -/
inductive Failure
  | collision (report : Report)
  | shortEntry
  deriving DecidableEq, Repr

/-- A run that failed, with the events up to the failure. -/
structure Halt where
  failure : Failure
  events : List Event
  deriving DecidableEq, Repr

end ClientGen.Flattening
