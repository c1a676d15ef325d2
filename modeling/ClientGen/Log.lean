/-!
# Log entries

What a run reports besides its result, by level.
-/

set_option autoImplicit false
set_option relaxedAutoImplicit false

namespace ClientGen

/-- The levels of log entries. -/
inductive Level
  | debug | info | warning
  deriving DecidableEq, Repr

/-- The name of a level. -/
def Level.text : Level → String
  | debug => "DEBUG"
  | info => "INFO"
  | warning => "WARNING"

/-- The weight of a level; a reader sees the entries at or above a chosen weight. -/
def Level.weight : Level → Nat
  | debug => 10
  | info => 20
  | warning => 30

/-- A log entry. -/
structure LogEntry where
  level : Level
  text : String
  deriving DecidableEq, Repr

/-- The line that shows an entry. -/
def LogEntry.line (entry : LogEntry) : String :=
  entry.level.text ++ ": " ++ entry.text ++ "\n"

/-- Whether an entry is shown to a reader of the given level. -/
def LogEntry.shownAt (entry : LogEntry) (level : Level) : Bool :=
  level.weight ≤ entry.level.weight

end ClientGen
