import ClientGen.CommandLine.Request
import ClientGen.CommandLine.Usage
import ClientGen.Run

/-!
# The two programs

`Program.generator` writes the clients of a directory, `Program.inspector` prints its flat services.
Both are functions of their arguments and the world they run in. A failure that a program reports
ends it with status one and a line on the error output; any other failure breaks it off.
-/

set_option autoImplicit false
set_option relaxedAutoImplicit false

namespace ClientGen

namespace Program

open CommandLine

/-- What a program needs besides its arguments: the compiler, the reader of documents, the engine of
method templates, and how the texts of overrides are read as scripts. All of these are given, and
may be others than those of this library. -/
structure Environment where
  compiler : Compiler.Environment
  documents : Yaml.Reader := Yaml.load Config.depth
  templates : Template.Engine := .standard
  script : String → Script

/-- How a program ends. -/
inductive Ending
  | exit (status : Nat)
  | broken (failure : Run.Failure)
  deriving DecidableEq, Repr

/-- What comes of a program: its end, its two outputs, and the world it leaves. -/
structure Outcome where
  ending : Ending
  out : String := ""
  err : String := ""
  world : World

/-- The program that writes clients reports what is wrong with its input and with the disk. It does
not report null characters in paths and in arguments of the compiler, and errors that its parts
raise without reporting them as their own. -/
def generatorReports : Run.Failure → Bool
  | .config .notText | .config (.value _) => false
  | .config (.unreadable _ failure) | .disk failure => failure.fault ≠ .nullByte
  | .sources unreadable => unreadable.failure.fault ≠ .nullByte
  | .compiler .undecodable => false
  | .flattening .shortEntry => false
  | .refusal (.mismatch _) | .mismatch _ | .client (.mismatch _) => false
  | .refusal (.template (.raised ..)) => false
  | .client (.override (.ending ..)) | .client (.template (.misuse _)) => false
  | _ => true

/-- The program that prints flat services reports what is wrong with the schemas, and null
characters. -/
def inspectorReports : Run.Failure → Bool
  | .sources _ | .link _ | .selection _ => true
  | .disk failure => failure.fault = .nullByte
  | .compiler (.missing _) | .compiler (.failed _) => true
  | _ => false

/-- The lines of log entries that a reader of the given level sees. -/
def logText (level : Level) (entries : List LogEntry) : String :=
  String.join ((entries.filter (·.shownAt level)).map LogEntry.line)

/-- The outcome of a run whose log is shown from a level on. -/
def outcome {α : Type} (level : Level) (reports : Run.Failure → Bool) (mark : String)
    (show_ : α → String) (run : Run α) (world : World) : Outcome :=
  let (result, world) := run.run.run world
  let log := logText level world.entries
  match result with
  | .ok value => { ending := .exit 0, out := show_ value, err := log, world := world }
  | .error failure =>
    if reports failure then
      { ending := .exit 1, err := log ++ mark ++ failure.message ++ "\n", world := world }
    else { ending := .broken failure, err := log, world := world }

/-- The outcome for a request, where a run is left to a function of the settings. -/
def answer (usage : Usage) (world : World) (run : Settings → Outcome) : Request → Outcome
  | .help => { ending := .exit 0, out := usage.helpText, world := world }
  | .version => { ending := .exit 0, out := usage.versionText, world := world }
  | .refused fault => { ending := .exit 2, err := usage.errorText fault.message, world := world }
  | .run settings => run settings

/-- The configuration with what the command line says instead. -/
def configured (settings : Settings) (config : Config String) : Config String :=
  { config with
    protoPath := ((settings.proto.bind Value.text?).getD config.protoPath)
    outputDir := ((settings.out.bind Value.text?).getD config.outputDir)
    importPaths := config.importPaths ++ givenItems settings.imports }

/-- What is wrong with an empty list in place of the directory of the sources. -/
def sourcesMismatch (config : Config String) : Mismatch :=
  if config.excludePaths.isEmpty then .directory "list" else .path "list"

/-- The run of the program that writes clients. An empty list suits no path. -/
def generatorRun (environment : Environment) (settings : Settings) : Run (List String) := do
  if settings.config = some .empty then throw (.mismatch (.path "list"))
  let config ← Run.attempt .config
    (Config.load (← get).disk (settings.config.bind Value.text?) environment.documents)
  if settings.proto = some .empty then throw (.mismatch (sourcesMismatch config))
  let config := (configured settings config).mapSources environment.script
  let client := Client.Settings.ofConfig config environment.templates
  Run.all environment.compiler config
    (if settings.out = some .empty then { client with directory := .error (.path "list") }
    else client)

/-- The lines that name the files written. -/
def generatedText (paths : List String) : String :=
  String.join (paths.map fun path ↦ "Generated: " ++ path ++ "\n")

/-- Writes the clients of a directory. -/
def generator (environment : Environment) (world : World) (arguments : List String) : Outcome :=
  answer .generator world (fun settings ↦
    outcome (if settings.verbose then .debug else .info) generatorReports "FATAL: " generatedText
      (generatorRun environment settings) world)
    (.ofArguments generatorFlags false arguments)

/-- The directory that the command line of the inspector names. -/
def directory? (settings : Settings) : Option String :=
  ((settings.proto.bind Value.text?).filter (· ≠ "")).or (settings.operand.filter (· ≠ ""))

/-- The document of flat services. -/
def servicesText (services : List Record.Service) : String :=
  (Json.list (services.map Record.Service.json)).pretty ++ "\n"

/-- Prints the flat services of a directory. -/
def inspector (environment : Environment) (world : World) (arguments : List String) : Outcome :=
  answer .inspector world (fun settings ↦
    match directory? settings with
    | none => {
        ending := .exit 1
        err := "Error: a proto directory is required (positional or --proto)\n"
        world := world }
    | some directory =>
      outcome .warning inspectorReports "Error: " servicesText
        (Run.flatServices environment.compiler "protoc" directory (givenItems settings.imports)
          (givenItems settings.exclude) false) world)
    (.ofArguments inspectorFlags true arguments)

end Program

end ClientGen
