import ClientGen.Proofs.DiskFailures
import ClientGen.Proofs.Flattening.Progress
import ClientGen.Proofs.Flattening.Strictness
import ClientGen.Proofs.Interruption
import ClientGen.Proofs.Session

/-!
# Why runs fail

`FailsFrom` says of a step that it fails for no other reason than those given if it starts in a
state, and `FailsOnly` that it does so wherever it starts. Both compose (`FailsFrom.bind`), and so
they hold of the parts of a run, each by its own steps: of those that make flat services
(`Run.FlatCause`), and of those that write files (`Run.WriteCause`).
Flattening fails at a collision only in a strict run, and otherwise only at the entry of a map that
lacks a key or a value (`Flattening.not_wholeEntries_of_shortEntry`).
-/

set_option autoImplicit false
set_option relaxedAutoImplicit false

namespace ClientGen

open Declaration Flattening

/-- A step that starts in a state fails only for one of the given causes. -/
def FailsFrom {ε σ α : Type} (cause : ε → Prop) (s : σ) (x : ExceptT ε (StateM σ) α) : Prop :=
  ∀ failure t, x.run.run s = (.error failure, t) → cause failure

/-- A step fails only for one of the given causes, wherever it starts. -/
def FailsOnly {ε σ α : Type} (cause : ε → Prop) (x : ExceptT ε (StateM σ) α) : Prop :=
  ∀ s, FailsFrom cause s x

/-- A step and one that goes on with its result in the state that it leaves. -/
theorem FailsFrom.bind {ε σ α β : Type} {cause : ε → Prop} {s : σ} {x : ExceptT ε (StateM σ) α}
    {f : α → ExceptT ε (StateM σ) β} (hx : FailsFrom cause s x)
    (hf : ∀ a t, x.run.run s = (.ok a, t) → FailsFrom cause t (f a)) :
    FailsFrom cause s (x >>= f) := by
  intro failure t hrun
  rw [run_bind_eq] at hrun
  cases hstep : x.run.run s with
  | mk result middle =>
    rw [hstep] at hrun
    cases result with
    | error found =>
      cases hrun
      exact hx _ _ hstep
    | ok a => exact hf a middle hstep failure t hrun

namespace FailsOnly

variable {ε σ α β : Type} {cause : ε → Prop}

theorem pure (a : α) : FailsOnly cause (pure a : ExceptT ε (StateM σ) α) :=
  nofun

theorem throw {failure : ε} (h : cause failure) :
    FailsOnly cause (throw failure : ExceptT ε (StateM σ) α) := by
  intro s found t hrun
  cases hrun
  exact h

theorem get : FailsOnly cause (get : ExceptT ε (StateM σ) σ) :=
  nofun

theorem modify (f : σ → σ) : FailsOnly cause (modify f : ExceptT ε (StateM σ) Unit) :=
  nofun

/-- A step and one that goes on with its result. -/
theorem bind {x : ExceptT ε (StateM σ) α} {f : α → ExceptT ε (StateM σ) β}
    (hx : FailsOnly cause x)
    (hf : ∀ s a t, x.run.run s = (.ok a, t) → FailsOnly cause (f a)) :
    FailsOnly cause (x >>= f) :=
  fun s ↦ (hx s).bind fun a t hstep ↦ hf s a t hstep t

end FailsOnly

/-! ### Writing texts -/

namespace Client

variable {client : Client}

/-- Why a text of a service cannot be written: the lines in front of it do not suit, the override of
a call fails in some sandbox, or the template does for some call in some state of its engine. -/
inductive TextCause (client : Client) : Failure → Prop
  | imports {cause : Mismatch} (h : client.imports = .error cause) :
      TextCause client (.mismatch cause)
  | override {name place : String} {script : Script} {arguments : List String} {sandbox : Sandbox}
      {failure : Sandbox.Failure} (hscript : client.overrides.lookup name = some script)
      (h : ((Sandbox.run place script arguments).run.run sandbox).1 = .error failure) :
      TextCause client (.override failure)
  | template {call : Record.Call} {state : Template.State} {failure : Template.Failure}
      (h : ((client.template.render call).run.run state).1 = .error failure) :
      TextCause client (.template failure)

theorem callText_failsOnly (call : Record.Call) :
    FailsOnly client.TextCause (client.callText call) := by
  unfold callText
  split
  · next script hscript =>
    refine (FailsOnly.modify _).bind fun _ _ _ _ session failure left hrun ↦ ?_
    rw [run_inSandbox] at hrun
    obtain ⟨found, hfound, rfl⟩ := exists_of_mapError_eq_error (congrArg Prod.fst hrun)
    exact .override hscript hfound
  · intro session failure left hrun
    rw [run_inEngine] at hrun
    obtain ⟨found, hfound, rfl⟩ := exists_of_mapError_eq_error (congrArg Prod.fst hrun)
    exact .template hfound

theorem callTexts_failsOnly (calls : List Record.Call) :
    FailsOnly client.TextCause (client.callTexts calls) := by
  induction calls with
  | nil => exact .pure []
  | cons call rest ih =>
    rw [callTexts]
    exact (callText_failsOnly call).bind fun _ _ _ _ ↦ ih.bind fun _ _ _ _ ↦ .pure _

theorem serviceText_failsOnly (service : Record.Service) :
    FailsOnly client.TextCause (client.serviceText service) := by
  unfold serviceText
  split
  · exact .bind (.pure _) fun _ _ _ _ ↦ (callTexts_failsOnly _).bind fun _ _ _ _ ↦ .pure _
  · next himports =>
    exact .bind (.throw (.imports himports)) fun _ _ _ _ ↦
      (callTexts_failsOnly _).bind fun _ _ _ _ ↦ .pure _

end Client

theorem Compiler.eq_compiled_of_files {program : String} {outcome : Compiler.Outcome}
    {files : List Descriptor.File} (h : outcome.files program = .ok files) :
    outcome = .compiled files := by
  cases outcome with
  | compiled found =>
    cases h
    rfl
  | _ => cases h

namespace Run

variable {α : Type}

theorem attempt_failsOnly {ε : Type} {cause : Failure → Prop} {failure : ε → Failure}
    {e : Except ε α} (h : ∀ found, e = .error found → cause (failure found)) :
    FailsOnly cause (attempt failure e) := by
  cases e with
  | error found => exact .throw (h found rfl)
  | ok a => exact .pure a

/-! ### Making flat services -/

/-- The argument lists that the compiler can be given for a directory on a disk. -/
def Calls (environment : Compiler.Environment) (disk : Disk) (program directory : String)
    (imports excluded call : List String) : Prop :=
  ∃ names, Sources.list disk directory excluded = .ok names ∧
    call = Compiler.arguments environment disk.directory program directory imports names

/-- Why there are no flat services: the directory cannot be listed, the compiler cannot be given its
arguments or leaves nothing, a reference leads nowhere, a file is missing, or a service cannot be
flattened. -/
inductive FlatCause (environment : Compiler.Environment) (calls : List String → Prop)
    (program : String) (strict : Bool) : Failure → Prop
  | sources {unreadable : Sources.Unreadable} (h : unreadable.failure.Proper) :
      FlatCause environment calls program strict (.sources unreadable)
  | argument {call : List String} {argument : String} (hcall : calls call)
      (hmem : argument ∈ call) (hnull : '\x00' ∈ argument.toList) :
      FlatCause environment calls program strict (.disk ⟨.nullByte, argument⟩)
  | compiler {call : List String} {failure : Compiler.Failure} (hcall : calls call)
      (h : (environment.compile call).files program = .error failure) :
      FlatCause environment calls program strict (.compiler failure)
  | link {failure : LinkError} : FlatCause environment calls program strict (.link failure)
  | selection {missing : MissingFile} :
      FlatCause environment calls program strict (.selection missing)
  | flattening {call : List String} {files : List Descriptor.File} {schema : Schema}
      {service : Service} {halt : Halt} (hcall : calls call)
      (hfiles : environment.compile call = .compiled files)
      (hlink : Schema.link files = .ok schema)
      (h : flatten schema strict service = .error halt) :
      FlatCause environment calls program strict (.flattening halt.failure)

variable {environment : Compiler.Environment} {program directory : String}
  {imports excluded names : List String} {strict : Bool} {world after : World}

theorem exists_of_checkArguments {call : List String} {failure : DiskFailure}
    (h : Compiler.checkArguments call = .error failure) :
    ∃ argument ∈ call, '\x00' ∈ argument.toList ∧ failure = ⟨.nullByte, argument⟩ := by
  unfold Compiler.checkArguments at h
  split at h
  · next argument hfind =>
    cases h
    have hnull := List.find?_some hfind
    exact ⟨argument, List.mem_of_find?_eq_some hfind, List.contains_iff_mem.mp hnull, rfl⟩
  · cases h

theorem compile_failsFrom (hnames : Sources.list world.disk directory excluded = .ok names) :
    FailsFrom
      (FlatCause environment (Calls environment world.disk program directory imports excluded)
        program strict) world (compile environment program directory imports names) := by
  have hcall : Calls environment world.disk program directory imports excluded
      (Compiler.arguments environment world.disk.directory program directory imports names) :=
    ⟨names, hnames, rfl⟩
  refine (FailsOnly.get world).bind fun held same hget ↦ ?_
  obtain ⟨rfl, rfl⟩ := of_get hget
  refine (FailsOnly.modify _ _).bind fun _ _ _ ↦ (FailsOnly.modify _ _).bind fun _ _ _ ↦ ?_
  refine (attempt_failsOnly fun failure hfailure ↦ ?_).bind (fun _ _ _ _ ↦
    attempt_failsOnly fun failure hfailure ↦ .compiler hcall hfailure) _
  obtain ⟨argument, hmem, hnull, rfl⟩ := exists_of_checkArguments hfailure
  exact .argument hcall hmem hnull

theorem eq_compiled_of_compile {files : List Descriptor.File}
    (h : (compile environment program directory imports names).run.run world =
      (.ok files, after)) :
    environment.compile (Compiler.arguments environment world.disk.directory program directory
      imports names) = .compiled files := by
  obtain ⟨held, _, hget, hnoting⟩ := exists_of_bind h
  obtain ⟨rfl, rfl⟩ := of_get hget
  obtain ⟨_, _, -, hcounting⟩ := exists_of_bind hnoting
  obtain ⟨_, _, -, hchecking⟩ := exists_of_bind hcounting
  obtain ⟨_, _, -, hattempt⟩ := exists_of_bind hchecking
  obtain ⟨hfiles, -⟩ := of_attempt hattempt
  exact Compiler.eq_compiled_of_files hfiles

theorem proper_of_sources {disk : Disk} {unreadable : Sources.Unreadable}
    (h : Sources.list disk directory excluded = .error unreadable) :
    unreadable.failure.Proper := by
  unfold Sources.list Sources.System.list at h
  dsimp only [Disk.system] at h
  split at h
  · next hlist =>
    cases h
    exact Disk.proper_of_list hlist
  · cases h

theorem loadServices_failsFrom (world : World) :
    FailsFrom
      (FlatCause environment (Calls environment world.disk program directory imports excluded)
        program strict) world
      (loadServices environment program directory imports excluded) := by
  refine (FailsOnly.get world).bind fun held same hget ↦ ?_
  obtain ⟨rfl, rfl⟩ := of_get hget
  refine (attempt_failsOnly (fun _ h ↦ .sources (proper_of_sources h)) _).bind
    fun names same hattempt ↦ ?_
  obtain ⟨hnames, rfl⟩ := of_attempt hattempt
  split
  · exact (FailsOnly.modify _).bind (fun _ _ _ _ ↦ .pure _) _
  · refine (compile_failsFrom hnames).bind fun files middle _ ↦ ?_
    refine (attempt_failsOnly fun _ _ ↦ .link).bind (fun _ schema _ _ ↦ ?_) middle
    refine (attempt_failsOnly fun _ _ ↦ .selection).bind fun _ services _ _ ↦ ?_
    exact (FailsOnly.modify _).bind fun _ _ _ _ ↦ .pure _

/-- Services come from the linked files of a call of the compiler, if there are any. -/
theorem of_loadServices {schema : Schema} {services : List Service}
    (h : (loadServices environment program directory imports excluded).run.run world =
      (.ok (schema, services), after)) (hne : services ≠ []) :
    ∃ call files, Calls environment world.disk program directory imports excluded call ∧
      environment.compile call = .compiled files ∧ Schema.link files = .ok schema := by
  obtain ⟨held, _, hget, hlisting⟩ := exists_of_bind h
  obtain ⟨rfl, rfl⟩ := of_get hget
  obtain ⟨names, _, hattempt, hnaming⟩ := exists_of_bind hlisting
  obtain ⟨hnames, rfl⟩ := of_attempt hattempt
  split at hnaming
  · obtain ⟨_, _, -, hlast⟩ := exists_of_bind hnaming
    cases hlast
    exact absurd rfl hne
  · obtain ⟨files, _, hcompile, hlinking⟩ := exists_of_bind hnaming
    obtain ⟨linked, _, hattempt, hselecting⟩ := exists_of_bind hlinking
    obtain ⟨hlink, -⟩ := of_attempt hattempt
    obtain ⟨selected, _, -, hanswering⟩ := exists_of_bind hselecting
    obtain ⟨_, _, -, hlast⟩ := exists_of_bind hanswering
    cases hlast
    exact ⟨_, files, ⟨names, hnames, rfl⟩, eq_compiled_of_compile hcompile, hlink⟩

theorem flattenService_failsOnly {cause : Failure → Prop} {schema : Schema} {service : Service}
    (h : ∀ halt, flatten schema strict service = .error halt →
      cause (.flattening halt.failure)) :
    FailsOnly cause (flattenService schema strict service) := by
  unfold flattenService
  split
  · exact (FailsOnly.modify _).bind fun _ _ _ _ ↦ .pure _
  · next halt hhalt => exact (FailsOnly.modify _).bind fun _ _ _ _ ↦ .throw (h halt hhalt)

theorem flattenAll_failsOnly {cause : Failure → Prop} {schema : Schema} {services : List Service}
    (h : ∀ service ∈ services, ∀ halt, flatten schema strict service = .error halt →
      cause (.flattening halt.failure)) :
    FailsOnly cause (flattenAll schema strict services) := by
  induction services with
  | nil => exact .pure []
  | cons service rest ih =>
    have hrest : FailsOnly cause (flattenAll schema strict rest) :=
      ih fun other hother ↦ h other (List.mem_cons_of_mem _ hother)
    rw [flattenAll]
    exact (flattenService_failsOnly (h service List.mem_cons_self)).bind fun _ _ _ _ ↦
      hrest.bind fun _ _ _ _ ↦ .pure _

theorem flatServices_failsFrom (world : World) :
    FailsFrom
      (FlatCause environment (Calls environment world.disk program directory imports excluded)
        program strict) world
      (flatServices environment program directory imports excluded strict) := by
  refine (loadServices_failsFrom world).bind fun loaded after hload ↦ ?_
  obtain ⟨schema, services⟩ := loaded
  refine flattenAll_failsOnly (fun service hservice halt hhalt ↦ ?_) after
  obtain ⟨call, files, hcall, hfiles, hlink⟩ := of_loadServices hload (List.ne_nil_of_mem hservice)
  exact .flattening hcall hfiles hlink hhalt

/-! ### Writing files -/

/-- Why the files of services cannot be written: there is no client writer, no directory, a step on
the disk fails, or a text cannot be written. -/
inductive WriteCause (settings : Client.Settings) : Failure → Prop
  | refusal {refusal : Client.Refusal} (h : Client.ofSettings settings = .error refusal) :
      WriteCause settings (.refusal refusal)
  | directory {cause : Mismatch} (h : settings.directory = .error cause) :
      WriteCause settings (.mismatch cause)
  | disk {failure : DiskFailure} (h : failure.Proper) : WriteCause settings (.disk failure)
  | text {client : Client} {failure : Client.Failure}
      (hclient : Client.ofSettings settings = .ok client) (h : client.TextCause failure) :
      WriteCause settings (.client failure)

variable {settings : Client.Settings}

theorem inClient_failsOnly {cause : Failure → Prop} {session : Client.Session}
    {step : Client.Step α} {reason : Client.Failure → Prop} (hstep : FailsOnly reason step)
    (h : ∀ failure, reason failure → cause (.client failure)) :
    FailsOnly cause (inClient session step) := by
  intro world failure after hrun
  obtain ⟨found, left, hfailed, rfl, -⟩ := of_inClient_error hrun
  exact h found (hstep session found left hfailed)

theorem ensureDirectory_failsOnly (path : String) :
    FailsOnly (WriteCause settings) (ensureDirectory path) := by
  intro world failure after hrun
  rw [run_ensureDirectory] at hrun
  cases hfound : (world.disk.ensureDirectory path).1 with
  | none =>
    rw [hfound] at hrun
    cases hrun
  | some found =>
    rw [hfound] at hrun
    cases hrun
    exact .disk (Disk.proper_of_ensureDirectory hfound)

theorem writeFiles_failsOnly {client : Client} (hclient : Client.ofSettings settings = .ok client)
    (directory extension : String) (session : Client.Session) (services : List Record.Service) :
    FailsOnly (WriteCause settings) (writeFiles directory extension client session services) := by
  induction services generalizing session with
  | nil => exact .pure []
  | cons service rest ih =>
    refine (inClient_failsOnly (Client.serviceText_failsOnly service) fun _ ↦
      .text hclient).bind fun _ written _ _ ↦ ?_
    obtain ⟨text, next⟩ := written
    refine FailsOnly.get.bind fun _ world _ _ ↦ ?_
    refine (attempt_failsOnly fun _ h ↦ .disk (Disk.proper_of_write h)).bind fun _ disk _ _ ↦ ?_
    exact (FailsOnly.modify _).bind fun _ _ _ _ ↦ (ih next).bind fun _ _ _ _ ↦ .pure _

theorem generate_failsOnly (services : List Record.Service) :
    FailsOnly (WriteCause settings) (generate settings services) := by
  refine (attempt_failsOnly fun _ ↦ .refusal).bind fun _ client _ hattempt ↦ ?_
  obtain ⟨hclient, -⟩ := of_attempt hattempt
  refine (attempt_failsOnly fun _ ↦ .directory).bind fun _ directory _ _ ↦ ?_
  exact (ensureDirectory_failsOnly directory).bind fun _ _ _ _ ↦
    writeFiles_failsOnly hclient directory _ _ services

end Run

end ClientGen
