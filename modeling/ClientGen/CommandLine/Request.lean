import ClientGen.CommandLine.Arguments
import ClientGen.Text.Blank
import ClientGen.Text.Splice

/-!
# What a command line asks for

The flags of the two programs and what they ask for: help, the version, or a run. Of a flag that is
given several times the last value counts. Lists are written with commas.
-/

set_option autoImplicit false
set_option relaxedAutoImplicit false

namespace ClientGen.CommandLine

open ClientGen.Text

/-- The items of a list with commas, trimmed, empty ones left out. -/
def items (written : String) : List String :=
  ((splitOn ',' written.toList).map trim).filterMap fun item ↦
    if item.isEmpty then none else some (String.ofList item)

/-- The items of a list that may be left out. -/
def items? (written : Option String) : List String :=
  written.elim [] items

/-- The items of a list that a flag gives. -/
def givenItems (given : Option Value) : List String :=
  items? (given.bind Value.text?)

/-- What the flags of the two programs mean. -/
inductive Meaning
  | help | version | verbose | config | proto | out | imports | exclude
  deriving DecidableEq, Repr

/-- The flags of the program that writes clients. -/
def generatorFlags : List (Flag Meaning) :=
  [⟨["-h", "--help"], false, .help⟩, ⟨["-c", "--config"], true, .config⟩,
    ⟨["--proto"], true, .proto⟩, ⟨["--out"], true, .out⟩, ⟨["--imports"], true, .imports⟩,
    ⟨["--verbose"], false, .verbose⟩, ⟨["--version"], false, .version⟩]

/-- The flags of the program that prints flat services. -/
def inspectorFlags : List (Flag Meaning) :=
  [⟨["-h", "--help"], false, .help⟩, ⟨["--proto"], true, .proto⟩,
    ⟨["--imports"], true, .imports⟩, ⟨["--exclude"], true, .exclude⟩,
    ⟨["--version"], false, .version⟩]

/-- What a run is asked for. -/
structure Settings where
  verbose : Bool := false
  config : Option Value := none
  proto : Option Value := none
  out : Option Value := none
  imports : Option Value := none
  exclude : Option Value := none
  operand : Option String := none
  deriving DecidableEq, Repr

/-- What a command line asks for. -/
inductive Request
  | help
  | version
  | refused (fault : UsageError)
  | run (settings : Settings)
  deriving DecidableEq, Repr

/-- The settings with a flag taken into account. -/
def Settings.take (settings : Settings) (given : Given Meaning) : Settings :=
  match given.meaning with
  | .verbose => { settings with verbose := true }
  | .config => { settings with config := given.value }
  | .proto => { settings with proto := given.value }
  | .out => { settings with out := given.value }
  | .imports => { settings with imports := given.value }
  | .exclude => { settings with exclude := given.value }
  | .help | .version => settings

/-- What flags ask for, the first one first, or else the given answer on the settings they make. -/
def Request.ofGiven (finish : Settings → Request) : Settings → List (Given Meaning) → Request
  | settings, [] => finish settings
  | settings, given :: rest =>
    match given.meaning with
    | .help => .help
    | .version => .version
    | _ => ofGiven finish (settings.take given) rest

/-- What a command line asks for. -/
def Request.ofArguments (flags : List (Flag Meaning)) (takesOperand : Bool)
    (arguments : List String) : Request :=
  let reading := read flags takesOperand arguments
  ofGiven (fun settings ↦
    match reading.fault, reading.left with
    | some fault, _ => .refused fault
    | none, [] => .run { settings with operand := reading.operand }
    | none, left => .refused (.unrecognized left)) {} reading.given

end ClientGen.CommandLine
