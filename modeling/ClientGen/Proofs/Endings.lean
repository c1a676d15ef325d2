import ClientGen.Program
import ClientGen.Proofs.Failures

/-!
# How programs end

A program prints what it was asked for, or ends with status one and a report, or is broken off by a
failure that it does not report. What can break off a program is known from what it is given
(`Program.GeneratorEscapes`, `Program.InspectorEscapes`): a configuration file that is no text or on
which the reader of documents raises an error that is no fault of form, a null character in a path
or in an argument of the compiler, output of the compiler that cannot be decoded or has the entry of
a map without a key or a value, an override that ends the program, and a method template on which
the engine raises an error that is not one of its own, when it is read or when it is written. The
compiler, the reader, the engine and the scripts are whatever the environment has. Without these,
every failure is a clean exit (`programs_end`). In `Garbled` the configuration file is no text.
-/

set_option autoImplicit false
set_option relaxedAutoImplicit false

namespace ClientGen

namespace Program

open CommandLine

variable {environment : Environment} {world : World} {settings : Settings}

/-! ### What escapes -/

/-- A step on a disk fails since there is a null character in its path. -/
def NullPath (failure : DiskFailure) : Prop :=
  failure.fault = .nullByte ∧ '\x00' ∈ failure.path.toList

/-- The compiler leaves something that cannot be decoded, or files with the entry of a map that
lacks a key or a value, when it is called as it is for a run. -/
inductive FaultyOutput (environment : Environment) (calls : List String → Prop) :
    Run.Failure → Prop
  | undecodable {call : List String} (hcall : calls call)
      (h : environment.compiler.compile call = .undecodable) :
      FaultyOutput environment calls (.compiler .undecodable)
  | shortEntry {call : List String} {files : List Descriptor.File} {schema : Schema}
      (hcall : calls call) (hfiles : environment.compiler.compile call = .compiled files)
      (hlink : Schema.link files = .ok schema) (h : ¬schema.WholeEntries) :
      FaultyOutput environment calls (.flattening .shortEntry)

/-- The path of the configuration file. -/
def configPath (settings : Settings) : String :=
  Path.tidy ((settings.config.bind Value.text?).getD Config.usualFile)

/-- The configuration that a run starts from. -/
def Loads (environment : Environment) (world : World) (settings : Settings)
    (config : Config String) : Prop :=
  Config.load world.disk (settings.config.bind Value.text?) environment.documents = .ok config

/-- The calls of the compiler that a run of the program that writes clients can make. -/
def GeneratorCalls (environment : Environment) (world : World) (settings : Settings)
    (call : List String) : Prop :=
  ∃ config, Loads environment world settings config ∧
    Run.Calls environment.compiler world.disk config.protoc (configured settings config).protoPath
      (configured settings config).importPaths config.excludePaths call

/-- What can break off the program that writes clients, from what it is given. -/
inductive GeneratorEscapes (environment : Environment) (world : World) (settings : Settings) :
    Run.Failure → Prop
  | output {failure : Run.Failure}
      (h : FaultyOutput environment (GeneratorCalls environment world settings) failure) :
      GeneratorEscapes environment world settings failure
  | emptyOption {cause : Mismatch}
      (h : settings.config = some .empty ∨ settings.proto = some .empty ∨
        settings.out = some .empty) :
      GeneratorEscapes environment world settings (.mismatch cause)
  | notText {bytes : List UInt8} (h : world.disk.read (configPath settings) = .ok (.bytes bytes)) :
      GeneratorEscapes environment world settings (.config .notText)
  | value {text : String} {fault : Yaml.Fault}
      (hread : world.disk.read (configPath settings) = .ok (.text text))
      (hload : environment.documents (String.ofList (Text.unixLineEnds text.toList)) =
        .error fault)
      (hform : fault.isForm = false) :
      GeneratorEscapes environment world settings (.config (.value fault))
  | configPath {path : String} {failure : DiskFailure} (h : NullPath failure) :
      GeneratorEscapes environment world settings (.config (.unreadable path failure))
  | sourcesPath {unreadable : Sources.Unreadable} (h : NullPath unreadable.failure) :
      GeneratorEscapes environment world settings (.sources unreadable)
  | argument {call : List String} {argument : String}
      (hcall : GeneratorCalls environment world settings call) (hmem : argument ∈ call)
      (h : '\x00' ∈ argument.toList) :
      GeneratorEscapes environment world settings (.disk ⟨.nullByte, argument⟩)
  | outputPath {failure : DiskFailure} (h : NullPath failure) :
      GeneratorEscapes environment world settings (.disk failure)
  | ending {config : Config String} {name source place : String} {arguments : List String}
      {sandbox : Sandbox} {kind : Script.Kind} {message : String}
      (hconfig : Loads environment world settings config)
      (hsource : config.overrides.lookup name = some source)
      (h : ((Sandbox.run place (environment.script source) arguments).run.run sandbox).1 =
        .error (.ending kind message)) :
      GeneratorEscapes environment world settings (.client (.override (.ending kind message)))
  | unreadableTemplate {config : Config String} {kind message : String}
      (hconfig : Loads environment world settings config)
      (h : environment.templates.read config.methodTemplate = .error (.raised kind message)) :
      GeneratorEscapes environment world settings (.refusal (.template (.raised kind message)))
  | misuse {config : Config String} {template : Template.Renderer} {call : Record.Call}
      {state : Template.State} {cause : Template.Misuse}
      (hconfig : Loads environment world settings config)
      (hread : environment.templates.read config.methodTemplate = .ok template)
      (h : ((template.render call).run.run state).1 = .error (.misuse cause)) :
      GeneratorEscapes environment world settings (.client (.template (.misuse cause)))

/-- The calls of the compiler that a run of the program that prints flat services can make. -/
def InspectorCalls (environment : Environment) (world : World) (settings : Settings)
    (call : List String) : Prop :=
  ∃ directory, directory? settings = some directory ∧
    Run.Calls environment.compiler world.disk "protoc" directory (givenItems settings.imports)
      (givenItems settings.exclude) call

/-- What can break off the program that prints flat services. -/
inductive InspectorEscapes (environment : Environment) (world : World) (settings : Settings) :
    Run.Failure → Prop
  | output {failure : Run.Failure}
      (h : FaultyOutput environment (InspectorCalls environment world settings) failure) :
      InspectorEscapes environment world settings failure
  | denied {call : List String} (hcall : InspectorCalls environment world settings call)
      (h : environment.compiler.compile call = .denied) :
      InspectorEscapes environment world settings
        (.compiler (.denied (DiskFailure.message ⟨.denied, "protoc"⟩)))
  | broken {call : List String} {report : String}
      (hcall : InspectorCalls environment world settings call)
      (h : environment.compiler.compile call = .broken report) :
      InspectorEscapes environment world settings (.compiler (.denied report))

theorem FaultyOutput.unreported {calls : List String → Prop} {failure : Run.Failure}
    (h : FaultyOutput environment calls failure) :
    generatorReports failure = false ∧ inspectorReports failure = false := by
  cases h with
  | undecodable => exact ⟨rfl, rfl⟩
  | shortEntry => exact ⟨rfl, rfl⟩

theorem GeneratorEscapes.unreported {failure : Run.Failure}
    (h : GeneratorEscapes environment world settings failure) :
    generatorReports failure = false := by
  cases h with
  | output h => exact h.unreported.1
  | configPath h => simp [generatorReports, h.1]
  | sourcesPath h => simp [generatorReports, h.1]
  | outputPath h => simp [generatorReports, h.1]
  | _ => rfl

theorem InspectorEscapes.unreported {failure : Run.Failure}
    (h : InspectorEscapes environment world settings failure) :
    inspectorReports failure = false := by
  cases h with
  | output h => exact h.unreported.2
  | denied => rfl
  | broken => rfl

theorem nullPath_of_proper {failure : DiskFailure} (h : failure.Proper)
    (hfault : failure.fault = .nullByte) : NullPath failure :=
  ⟨hfault, h.mp hfault⟩

theorem eq_undecodable_of_files {program : String} {outcome : Compiler.Outcome}
    (h : outcome.files program = .error .undecodable) : outcome = .undecodable := by
  cases outcome <;> cases h
  rfl

theorem eq_denied_or_broken_of_files {program report : String} {outcome : Compiler.Outcome}
    (h : outcome.files program = .error (.denied report)) :
    (outcome = .denied ∧ report = DiskFailure.message ⟨.denied, program⟩) ∨
      outcome = .broken report := by
  cases outcome <;> cases h
  · exact .inl ⟨rfl, rfl⟩
  · exact .inr rfl

/-- Of the failures to load a configuration, those escape that are no text, that the reader raises
and that are no faults of form, or that lie in a null character. -/
theorem escapes_of_loadFile {path : String} {failure : Config.LoadFailure}
    (hpath : configPath settings = Path.tidy path)
    (h : Config.loadFile environment.documents world.disk path = .error failure)
    (hunreported : generatorReports (.config failure) = false) :
    GeneratorEscapes environment world settings (.config failure) := by
  unfold Config.loadFile at h
  split at h
  · next found hread =>
    cases h
    have hfault : found.fault = .nullByte := by simpa [generatorReports] using hunreported
    exact .configPath (nullPath_of_proper (Disk.proper_of_read hread) hfault)
  · next bytes hread =>
    cases h
    exact .notText (hpath ▸ hread)
  · next text hread =>
    unfold Config.ofText at h
    dsimp only at h
    split at h
    · next fault hload =>
      cases hform : fault.isForm with
      | true =>
        rw [hform] at h
        cases h
        cases hunreported
      | false =>
        rw [hform] at h
        cases h
        exact .value (hpath ▸ hread) hload hform
    · next found _ =>
      generalize Config.ofValue _ = result at h
      cases result with
      | error fault =>
        cases h
        cases hunreported
      | ok => cases h

theorem escapes_of_load {failure : Config.LoadFailure}
    (h : Config.load world.disk (settings.config.bind Value.text?) environment.documents =
      .error failure)
    (hunreported : generatorReports (.config failure) = false) :
    GeneratorEscapes environment world settings (.config failure) := by
  unfold Config.load at h
  split at h
  · next path hgiven => exact escapes_of_loadFile (by rw [configPath, hgiven]; rfl) h hunreported
  · next hgiven =>
    split at h
    · exact escapes_of_loadFile (by rw [configPath, hgiven]; rfl) h hunreported
    · cases h

/-- Of the failures to make flat services, those escape that lie in faulty output of the compiler or
in a null character. -/
theorem escapes_of_flatCause {calls : List String → Prop} {program : String} {strict : Bool}
    {failure : Run.Failure}
    (hcalls : ∀ call, calls call → GeneratorCalls environment world settings call)
    (h : Run.FlatCause environment.compiler calls program strict failure)
    (hunreported : generatorReports failure = false) :
    GeneratorEscapes environment world settings failure := by
  cases h with
  | @sources unreadable hproper =>
    have hfault : unreadable.failure.fault = .nullByte := by
      simpa [generatorReports] using hunreported
    exact .sourcesPath (nullPath_of_proper hproper hfault)
  | @argument call argument hcall hmem hnull => exact .argument (hcalls call hcall) hmem hnull
  | @compiler call found hcall hfiles =>
    cases found with
    | undecodable =>
      exact .output (.undecodable (hcalls call hcall) (eq_undecodable_of_files hfiles))
    | _ => cases hunreported
  | link => cases hunreported
  | selection => cases hunreported
  | @flattening call files schema service halt hcall hfiles hlink hhalt =>
    cases hfailure : halt.failure with
    | collision report =>
      rw [hfailure] at hunreported
      cases hunreported
    | shortEntry =>
      exact .output (.shortEntry (hcalls call hcall) hfiles hlink
        (Flattening.not_wholeEntries_of_shortEntry hhalt hfailure))

theorem inspectorEscapes_of_flatCause {calls : List String → Prop} {failure : Run.Failure}
    (hcalls : ∀ call, calls call → InspectorCalls environment world settings call)
    (h : Run.FlatCause environment.compiler calls "protoc" false failure)
    (hunreported : inspectorReports failure = false) :
    InspectorEscapes environment world settings failure := by
  cases h with
  | sources => cases hunreported
  | argument => cases hunreported
  | @compiler call found hcall hfiles =>
    cases found with
    | undecodable =>
      exact .output (.undecodable (hcalls call hcall) (eq_undecodable_of_files hfiles))
    | denied report =>
      rcases eq_denied_or_broken_of_files hfiles with ⟨hdenied, rfl⟩ | hbroken
      · exact .denied (hcalls call hcall) hdenied
      · exact .broken (hcalls call hcall) hbroken
    | _ => cases hunreported
  | link => cases hunreported
  | selection => cases hunreported
  | @flattening call files schema service halt hcall hfiles hlink hhalt =>
    have hfailure : halt.failure = .shortEntry := Flattening.failure_of_lenient hhalt
    rw [hfailure]
    exact .output (.shortEntry (hcalls call hcall) hfiles hlink
      (Flattening.not_wholeEntries_of_shortEntry hhalt hfailure))

/-- The settings for clients of a run. An empty list in place of the directory suits no path. -/
def clientSettings (environment : Environment) (settings : Settings) (config : Config String) :
    Client.Settings :=
  { Client.Settings.ofConfig ((configured settings config).mapSources environment.script)
      environment.templates with
    directory := if settings.out = some .empty then .error (.path "list")
      else .ok (configured settings config).outputDir }

section Writing

variable {config : Config String}

theorem exists_lookup_of_map {sources : List (String × String)} {name : String} {script : Script}
    (h : (sources.map fun (name, source) ↦ (name, environment.script source)).lookup name =
      some script) :
    ∃ source, sources.lookup name = some source ∧ environment.script source = script := by
  induction sources with
  | nil => cases h
  | cons first rest ih =>
    obtain ⟨other, source⟩ := first
    rw [List.map_cons, List.lookup_cons] at h
    rw [List.lookup_cons]
    cases hname : name == other with
    | true =>
      rw [hname] at h
      exact ⟨source, rfl, Option.some.inj h⟩
    | false =>
      rw [hname] at h
      exact ih h

/-- The writer of clients for a run. -/
theorem of_ofSettings {client : Client}
    (h : Client.ofSettings (clientSettings environment settings config) = .ok client) :
    client.imports = .ok config.imports ∧
      environment.templates.read config.methodTemplate = .ok client.template ∧
      client.overrides =
        config.overrides.map fun (name, source) ↦ (name, environment.script source) := by
  obtain ⟨written, hwritten, hreading⟩ := exists_of_bind_eq_ok h
  cases hwritten
  obtain ⟨template, hread, hmade⟩ := exists_of_bind_eq_ok hreading
  cases hmade
  exact ⟨rfl, eq_ok_of_mapError_eq_ok hread, rfl⟩

/-- There is no writer of clients only if the template cannot be read. -/
theorem exists_fault_of_ofSettings {refusal : Client.Refusal}
    (h : Client.ofSettings (clientSettings environment settings config) = .error refusal) :
    ∃ fault, environment.templates.read config.methodTemplate = .error fault ∧
      refusal = .template fault := by
  change ((environment.templates.read config.methodTemplate).mapError
    Client.Refusal.template >>= _) = _ at h
  cases hread : environment.templates.read config.methodTemplate with
  | error fault =>
    rw [hread] at h
    cases h
    exact ⟨fault, rfl, rfl⟩
  | ok template =>
    rw [hread] at h
    cases h

/-- Of the failures to write files, those escape in which an override ends the program, the engine
raises an error that is not one of its own, or a path has a null character. -/
theorem escapes_of_writeCause {failure : Run.Failure}
    (hconfig : Loads environment world settings config)
    (h : Run.WriteCause (clientSettings environment settings config) failure)
    (hunreported : generatorReports failure = false) :
    GeneratorEscapes environment world settings failure := by
  cases h with
  | refusal hrefusal =>
    obtain ⟨fault, hread, rfl⟩ := exists_fault_of_ofSettings hrefusal
    cases fault with
    | raised kind message => exact .unreadableTemplate hconfig hread
    | _ => cases hunreported
  | @directory cause hdirectory =>
    refine .emptyOption (.inr (.inr ?_))
    by_contra hout
    simp [clientSettings, hout] at hdirectory
  | @disk found hproper =>
    have hfault : found.fault = .nullByte := by simpa [generatorReports] using hunreported
    exact .outputPath (nullPath_of_proper hproper hfault)
  | @text client cause hclient htext =>
    obtain ⟨himports, hread, hoverrides⟩ := of_ofSettings hclient
    cases htext with
    | imports hmismatch =>
      rw [himports] at hmismatch
      cases hmismatch
    | @override name place script arguments sandbox found hscript hrun =>
      rw [hoverrides] at hscript
      obtain ⟨source, hsource, rfl⟩ := exists_lookup_of_map hscript
      cases found with
      | ending kind message => exact .ending hconfig hsource hrun
      | _ => cases hunreported
    | @template call state found hrender =>
      cases found with
      | misuse cause => exact .misuse hconfig hread hrender
      | _ => cases hunreported

end Writing

/-- A run of the program that writes clients is refused an empty list for a path, or cannot load the
configuration, and changes nothing, or it is a whole run. -/
theorem generatorRun_cases {result : Except Run.Failure (List String)} {after : World}
    (h : (generatorRun environment settings).run.run world = (result, after)) :
    ((settings.config = some .empty ∨ settings.proto = some .empty) ∧
      (∃ cause, result = .error (.mismatch cause)) ∧ after = world) ∨
    (∃ failure, Config.load world.disk (settings.config.bind Value.text?) environment.documents =
        .error failure ∧ result = .error (.config failure) ∧ after = world) ∨
    ∃ config, Loads environment world settings config ∧
      (Run.all environment.compiler ((configured settings config).mapSources environment.script)
        (clientSettings environment settings config)).run.run world = (result, after) := by
  have hget : (get : Run World).run.run world = (.ok world, world) := rfl
  unfold generatorRun at h
  by_cases hconfig : settings.config = some .empty
  · rw [if_pos hconfig] at h
    cases h
    exact .inl ⟨.inl hconfig, ⟨_, rfl⟩, rfl⟩
  rw [if_neg hconfig] at h
  dsimp only at h
  rw [run_bind_eq, hget] at h
  dsimp only at h
  cases hload :
      Config.load world.disk (settings.config.bind Value.text?) environment.documents with
  | error failure =>
    rw [hload] at h
    cases h
    exact .inr (.inl ⟨failure, rfl, rfl, rfl⟩)
  | ok config =>
    rw [hload] at h
    by_cases hproto : settings.proto = some .empty
    · simp only [if_pos hproto] at h
      cases h
      exact .inl ⟨.inr hproto, ⟨_, rfl⟩, rfl⟩
    · simp only [if_neg hproto] at h
      refine .inr (.inr ⟨config, hload, ?_⟩)
      by_cases hout : settings.out = some .empty
      · simp only [clientSettings, if_pos hout] at h ⊢
        exact h
      · simp only [clientSettings, if_neg hout] at h ⊢
        exact h

theorem escapes_of_generatorRun {failure : Run.Failure} {after : World}
    (h : (generatorRun environment settings).run.run world = (.error failure, after))
    (hunreported : generatorReports failure = false) :
    GeneratorEscapes environment world settings failure := by
  rcases generatorRun_cases h with ⟨hempty, ⟨cause, hcause⟩, -⟩ | ⟨found, hload, hfound, -⟩ |
    ⟨config, hload, hall⟩
  · cases hcause
    exact .emptyOption (hempty.imp_right .inl)
  · cases hfound
    exact escapes_of_load hload hunreported
  · rcases Run.of_bind_error hall with hflat | ⟨services, middle, -, hwriting⟩
    · exact escapes_of_flatCause (fun call hcall ↦ ⟨config, hload, hcall⟩)
        (Run.flatServices_failsFrom world _ _ hflat) hunreported
    · split at hwriting
      · cases hwriting
      · exact escapes_of_writeCause hload (Run.generate_failsOnly _ _ _ _ hwriting) hunreported

/-! ### What is printed -/

/-- A line for the file of each flat service. -/
def PrintsFiles (environment : Environment) (world : World) (settings : Settings) (out : String) :
    Prop :=
  ∃ config services after directory, Loads environment world settings config ∧
    (Run.flatServices environment.compiler config.protoc (configured settings config).protoPath
      (configured settings config).importPaths config.excludePaths config.strictNames).run.run
        world = (.ok services, after) ∧
    out = String.join (services.map fun service ↦
      "Generated: " ++ Run.outputPath directory config.fileExtension service ++ "\n")

/-- The document of the flat services of a directory. -/
def PrintsDocument (environment : Environment) (world : World) (settings : Settings)
    (out : String) : Prop :=
  ∃ directory services after, directory? settings = some directory ∧
    (Run.flatServices environment.compiler "protoc" directory (givenItems settings.imports)
      (givenItems settings.exclude) false).run.run world = (.ok services, after) ∧
    out = (Json.list (services.map Record.Service.json)).pretty ++ "\n"

theorem printsFiles_of_generatorRun {paths : List String} {after : World}
    (h : (generatorRun environment settings).run.run world = (.ok paths, after)) :
    PrintsFiles environment world settings (generatedText paths) := by
  rcases generatorRun_cases h with ⟨-, ⟨cause, hcause⟩, -⟩ | ⟨found, -, hfound, -⟩ |
    ⟨config, hload, hall⟩
  · cases hcause
  · cases hfound
  · obtain ⟨services, middle, hflat, hwriting⟩ := Run.exists_of_bind hall
    split at hwriting
    · next hempty =>
      obtain ⟨_, _, -, hlast⟩ := Run.exists_of_bind hwriting
      cases hlast
      obtain rfl : services = [] := List.isEmpty_iff.mp hempty
      exact ⟨config, [], middle, "", hload, hflat, rfl⟩
    · obtain ⟨directory, client, texts, disk, -, -, -, rfl, -⟩ := Run.generate_eq_ok hwriting
      refine ⟨config, services, middle, directory, hload, hflat, ?_⟩
      rw [generatedText, List.map_map]
      rfl

/-! ### Endings -/

/-- How a program ends: it prints what it was asked for, or it ends with status one and a line with
a report behind what it logged, or it is broken off. -/
inductive Ends (mark : String) (prints : String → Prop) (escapes : Run.Failure → Prop)
    (outcome : Outcome) : Prop
  | finished (hending : outcome.ending = .exit 0) (hout : prints outcome.out)
  | reported {log report : String} (hending : outcome.ending = .exit 1) (hout : outcome.out = "")
      (herr : outcome.err = log ++ mark ++ report ++ "\n")
  | broken {failure : Run.Failure} (hending : outcome.ending = .broken failure)
      (hescapes : escapes failure)

/-- Assumes: what a run that returns prints, and what a failure that is not reported lies in. -/
theorem ends_outcome {α : Type} {run : Run α} {level : Level} {reports : Run.Failure → Bool}
    {mark : String} {shown : α → String} {prints : String → Prop} {escapes : Run.Failure → Prop}
    (hprints : ∀ value after, run.run.run world = (.ok value, after) → prints (shown value))
    (hescapes : ∀ failure after, run.run.run world = (.error failure, after) →
      reports failure = false → escapes failure) :
    Ends mark prints escapes (outcome level reports mark shown run world) := by
  unfold outcome
  cases hrun : run.run.run world with
  | mk result after =>
    cases result with
    | ok value => exact .finished rfl (hprints value after hrun)
    | error failure =>
      dsimp only
      cases hreports : reports failure with
      | true => exact .reported rfl rfl rfl
      | false => exact .broken rfl (hescapes failure after hrun hreports)

/-- A run that fails for a reason that is not reported is broken off. -/
theorem ending_outcome {α : Type} {run : Run α} {level : Level} {reports : Run.Failure → Bool}
    {mark : String} {shown : α → String} {failure : Run.Failure} {after : World}
    (hrun : run.run.run world = (.error failure, after)) (hunreported : reports failure = false) :
    (outcome level reports mark shown run world).ending = .broken failure := by
  unfold outcome
  rw [hrun]
  dsimp only
  rw [hunreported]
  rfl

end Program

open Program CommandLine

namespace Garbled

/-- A disk with a configuration file that is no text. -/
def world : World where
  disk :=
    { entries := [(["pb2ts.yaml".toList], .file (.ofBytes [0xff]))]
      directory := { names := [] } }

/-- An environment without a compiler. -/
def environment : Environment where
  compiler := { roots := [], scratch := "/tmp", compile := fun _ ↦ .missing }
  script := fun _ ↦ []

theorem generatorRun_fails :
    ((generatorRun environment {}).run.run world).1 = .error (.config .notText) := by
  decide +kernel

end Garbled

end ClientGen
