import ClientGen.Client
import ClientGen.Compiler
import ClientGen.Config.Loading
import ClientGen.Flattening
import ClientGen.Selection
import ClientGen.Sources

/-!
# Runs

A run compiles the schema files of a directory, flattens their services and writes a client for
each. It works on a disk, keeps a log and notes the calls of the compiler; all that it has done
stays when it fails.
-/

set_option autoImplicit false
set_option relaxedAutoImplicit false

namespace ClientGen

/-- What a run works on. -/
structure World where
  disk : Disk
  entries : List LogEntry := []
  calls : List (List String) := []

namespace Run

/-- Why a run fails. -/
inductive Failure
  | config (failure : Config.LoadFailure)
  | sources (failure : Sources.Unreadable)
  | compiler (failure : Compiler.Failure)
  | link (failure : LinkError)
  | selection (failure : MissingFile)
  | flattening (failure : Flattening.Failure)
  | refusal (refusal : Client.Refusal)
  | mismatch (cause : Mismatch)
  | disk (failure : DiskFailure)
  | client (failure : Client.Failure)
  deriving DecidableEq, Repr

/-- The report of a failure. -/
def Failure.message : Failure → String
  | config failure => failure.message
  | sources failure => failure.message
  | compiler failure => failure.message
  | link failure => failure.message
  | selection failure => failure.message
  | flattening (.collision report) => report.message
  | flattening .shortEntry => "list index out of range"
  | refusal (.template fault) => fault.message
  | refusal (.mismatch cause) => cause.message
  | mismatch cause => cause.message
  | disk failure => failure.message
  | client failure => failure.message

end Run

/-- A part of a run. -/
abbrev Run := ExceptT Run.Failure (StateM World)

namespace Run

/-- Notes log entries. -/
def note (entries : List LogEntry) : Run Unit :=
  modify fun world ↦ { world with entries := world.entries ++ entries }

/-- Goes on with a value, or fails. -/
def attempt {ε α : Type} (failure : ε → Failure) : Except ε α → Run α
  | .ok value => pure value
  | .error e => throw (failure e)

/-- The files that the compiler makes of the schema files of a directory. -/
def compile (environment : Compiler.Environment) (program directory : String)
    (imports names : List String) : Run (List Descriptor.File) := do
  let working := (← get).disk.directory
  let arguments := Compiler.arguments environment working program directory imports names
  note [⟨.debug, "Running " ++ " ".intercalate arguments⟩]
  modify fun world ↦ { world with calls := world.calls ++ [arguments] }
  attempt .disk (Compiler.checkArguments arguments)
  attempt .compiler ((environment.compile arguments).files program)

/-- The services of the schema files of a directory. -/
def loadServices (environment : Compiler.Environment) (program directory : String)
    (imports excluded : List String) : Run (Schema × List Declaration.Service) := do
  let names ← attempt .sources (Sources.list (← get).disk directory excluded)
  if names.isEmpty then
    note [⟨.info, "No .proto files found under " ++ directory⟩]
    return (⟨[]⟩, [])
  let files ← compile environment program directory imports names
  let schema ← attempt .link (Schema.link files)
  let services ← attempt .selection (Selection.services schema.files names)
  note [⟨.info, "Parsed " ++ toString names.length ++ " proto file(s), " ++
    toString services.length ++ " service(s)"⟩]
  return (schema, services)

/-- Flattens a service and notes its events. -/
def flattenService (schema : Schema) (strict : Bool) (service : Declaration.Service) :
    Run Record.Service := do
  match flatten schema strict service with
  | .ok result =>
    note (result.events.map (·.entry))
    return result.service
  | .error halt =>
    note (halt.events.map (·.entry))
    throw (.flattening halt.failure)

/-- Flattens services, from the first to the last. -/
def flattenAll (schema : Schema) (strict : Bool) :
    List Declaration.Service → Run (List Record.Service)
  | [] => pure []
  | service :: rest => do
    let record ← flattenService schema strict service
    return record :: (← flattenAll schema strict rest)

/-- The flat services of a directory. -/
def flatServices (environment : Compiler.Environment) (program directory : String)
    (imports excluded : List String) (strict : Bool) : Run (List Record.Service) := do
  let (schema, services) ← loadServices environment program directory imports excluded
  flattenAll schema strict services

/-- Runs a step of a client writer and notes its log. -/
def inClient {α : Type} (session : Client.Session) (step : Client.Step α) :
    Run (α × Client.Session) := do
  let (result, session) := step.run.run session
  note session.entries
  match result with
  | .ok value => return (value, { session with entries := [] })
  | .error failure => throw (.client failure)

/-- The path of the file for a service. -/
def outputPath (directory extension : String) (service : Record.Service) : String :=
  Path.join directory (service.name ++ "." ++ extension)

/-- Writes the files of services, from the first to the last. -/
def writeFiles (directory extension : String) (client : Client) :
    Client.Session → List Record.Service → Run (List String)
  | _, [] => pure []
  | session, service :: rest => do
    let (text, session) ← inClient session (client.serviceText service)
    let path := outputPath directory extension service
    let disk ← attempt .disk ((← get).disk.write (Path.tidy path) text)
    modify fun world ↦ { world with disk := disk }
    return path :: (← writeFiles directory extension client session rest)

/-- Makes the directory of a path. -/
def ensureDirectory (path : String) : Run Unit := do
  let (failure, disk) := (← get).disk.ensureDirectory path
  modify fun world ↦ { world with disk := disk }
  match failure with
  | some failure => throw (.disk failure)
  | none => return ()

/-- Writes a file for each service and answers the paths. -/
def generate (settings : Client.Settings) (services : List Record.Service) :
    Run (List String) := do
  let client ← attempt .refusal (Client.ofSettings settings)
  let directory ← attempt .mismatch settings.directory
  ensureDirectory directory
  writeFiles directory settings.extension client (Client.Session.start settings) services

/-- A whole run with a configuration. Nothing is written if there are no services. -/
def all (environment : Compiler.Environment) (config : Config Script)
    (settings : Client.Settings) : Run (List String) := do
  let services ← flatServices environment config.protoc config.protoPath config.importPaths
    config.excludePaths config.strictNames
  if services.isEmpty then
    note [⟨.info, "No services found under " ++ config.protoPath⟩]
    return []
  generate settings services

end Run

end ClientGen
