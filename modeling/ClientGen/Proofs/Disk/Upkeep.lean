import ClientGen.Proofs.Disk.Tree
import ClientGen.Proofs.Endings

/-!
# What programs leave on a disk

`Run.Keeps` says of a part of a run that it keeps a property of the disk, whether it returns or
fails. It composes, and only two steps of a run touch the disk at all: making a directory and writing
a file, and both keep the entries a tree. So a program that starts on a tree leaves one, and the
program that prints flat services leaves the disk as it was (`Program.programs_keep_disk`).
-/

set_option autoImplicit false
set_option relaxedAutoImplicit false

namespace ClientGen

namespace Run

variable {α : Type} {property : Disk → Prop}

/-- A part of a run keeps a property of the disk, however it ends. -/
abbrev Keeps (property : Disk → Prop) (x : Run α) : Prop :=
  Maintains (fun world : World ↦ property world.disk) x

namespace Keeps

theorem attempt {ε : Type} (failure : ε → Failure) (e : Except ε α) :
    Keeps property (attempt failure e) := by
  cases e with
  | error found => exact .throw _
  | ok a => exact .pure a

theorem note (entries : List LogEntry) : Keeps property (note entries) :=
  .modify fun _ h ↦ h

/-! ### Making flat services -/

theorem compile (environment : Compiler.Environment) (program directory : String)
    (imports names : List String) :
    Keeps property (compile environment program directory imports names) := by
  refine .bind .get fun _ ↦ (note _).bind fun _ ↦ .bind (.modify fun _ h ↦ h) fun _ ↦ ?_
  exact (attempt _ _).bind fun _ ↦ attempt _ _

theorem loadServices (environment : Compiler.Environment) (program directory : String)
    (imports excluded : List String) :
    Keeps property (loadServices environment program directory imports excluded) := by
  refine .bind .get fun _ ↦ (attempt _ _).bind fun names ↦ ?_
  split
  · exact (note _).bind fun _ ↦ .pure _
  · refine (compile environment program directory imports names).bind fun _ ↦ ?_
    exact (attempt _ _).bind fun _ ↦ (attempt _ _).bind fun _ ↦ (note _).bind fun _ ↦ .pure _

theorem flattenService (schema : Schema) (strict : Bool) (service : Declaration.Service) :
    Keeps property (flattenService schema strict service) := by
  unfold Run.flattenService
  split
  · exact (note _).bind fun _ ↦ .pure _
  · exact (note _).bind fun _ ↦ .throw _

theorem flattenAll (schema : Schema) (strict : Bool) (services : List Declaration.Service) :
    Keeps property (flattenAll schema strict services) := by
  induction services with
  | nil => exact .pure []
  | cons service rest ih =>
    rw [Run.flattenAll]
    exact (flattenService schema strict service).bind fun _ ↦ ih.bind fun _ ↦ .pure _

/-- Making flat services leaves the disk alone. -/
theorem flatServices (environment : Compiler.Environment) (program directory : String)
    (imports excluded : List String) (strict : Bool) :
    Keeps property (flatServices environment program directory imports excluded strict) :=
  (loadServices environment program directory imports excluded).bind fun (schema, services) ↦
    flattenAll schema strict services

/-! ### Writing files -/

theorem inClient (session : Client.Session) (step : Client.Step α) :
    Keeps property (inClient session step) := by
  unfold Run.inClient
  generalize step.run.run session = outcome
  obtain ⟨result, next⟩ := outcome
  refine (note _).bind fun _ ↦ ?_
  cases result with
  | error failure => exact .throw _
  | ok value => exact .pure _

theorem ensureDirectory (path : String) : Keeps Disk.IsTree (ensureDirectory path) := by
  intro world htree
  rw [run_ensureDirectory]
  exact htree.ensureDirectory path

theorem writeFiles (directory extension : String) (client : Client) (session : Client.Session)
    (services : List Record.Service) :
    Keeps Disk.IsTree (writeFiles directory extension client session services) := by
  induction services generalizing session with
  | nil => exact .pure []
  | cons service rest ih =>
    refine (inClient session _).bind fun (text, next) world htree ↦ ?_
    have hget : (MonadState.get : Run World).run.run world = (.ok world, world) := rfl
    dsimp only
    rw [run_bind_eq, hget]
    dsimp only
    cases hwrite : world.disk.write
        (Path.tidy (outputPath directory extension service)) text with
    | error failure => exact htree
    | ok disk =>
      have hwritten : ({ world with disk := disk } : World).disk.IsTree := htree.of_write hwrite
      exact ((ih next).bind fun _ ↦ .pure _) _ hwritten

theorem generate (settings : Client.Settings) (services : List Record.Service) :
    Keeps Disk.IsTree (generate settings services) :=
  (attempt _ _).bind fun client ↦ (attempt _ _).bind fun directory ↦
    (ensureDirectory directory).bind fun _ ↦ writeFiles directory _ client _ services

theorem all (environment : Compiler.Environment) (config : Config Script)
    (settings : Client.Settings) : Keeps Disk.IsTree (all environment config settings) := by
  refine (flatServices _ _ _ _ _ _).bind fun services ↦ ?_
  split
  · exact (note _).bind fun _ ↦ .pure _
  · exact generate settings services

end Keeps

end Run

namespace Program

open CommandLine

theorem generatorRun_keeps (environment : Environment) (settings : Settings) :
    Run.Keeps Disk.IsTree (generatorRun environment settings) := by
  intro world htree
  generalize hrun : (generatorRun environment settings).run.run world = ended
  obtain ⟨result, after⟩ := ended
  rcases generatorRun_cases hrun with ⟨-, -, rfl⟩ | ⟨-, -, -, rfl⟩ | ⟨config, -, hall⟩
  · exact htree
  · exact htree
  · have hkept := Run.Keeps.all environment.compiler
      ((configured settings config).mapSources environment.script)
      (clientSettings environment settings config) world htree
    rwa [hall] at hkept

/-- The world that is left is that of the run. -/
theorem keeps_outcome {α : Type} (property : Disk → Prop) {run : Run α} (hrun : run.Keeps property)
    {world : World} (hworld : property world.disk) (level : Level)
    (reports : Run.Failure → Bool) (mark : String) (shown : α → String) :
    property (outcome level reports mark shown run world).world.disk := by
  have hleft := hrun world hworld
  unfold outcome
  generalize run.run.run world = ended at hleft
  obtain ⟨result, after⟩ := ended
  cases result with
  | ok value => exact hleft
  | error failure =>
    dsimp only
    split
    · exact hleft
    · exact hleft

/-- Assumes: what a run leaves has a property that the disk had before. So has what an answer to a
request leaves. -/
theorem keeps_answer (property : Disk → Prop) {usage : Usage} {world : World}
    {run : Settings → Outcome} (hrun : ∀ settings, property (run settings).world.disk)
    (hworld : property world.disk) (request : Request) :
    property (answer usage world run request).world.disk := by
  cases request with
  | run settings => exact hrun settings
  | _ => exact hworld

/-- The program that writes clients leaves a tree on the disk if it was given one, with whatever
arguments and however it ends. The program that prints flat services leaves the disk as it was. -/
theorem programs_keep_disk (environment : Environment) (world : World)
    (arguments : List String) :
    (world.disk.IsTree → (generator environment world arguments).world.disk.IsTree) ∧
      (inspector environment world arguments).world.disk = world.disk := by
  constructor
  · intro htree
    exact keeps_answer Disk.IsTree (fun settings ↦
      keeps_outcome Disk.IsTree (generatorRun_keeps environment settings) htree _ _ _ _) htree _
  · refine keeps_answer (· = world.disk) (fun settings ↦ ?_) rfl _
    split
    · rfl
    · exact keeps_outcome (· = world.disk) (.flatServices _ _ _ _ _ _) rfl _ _ _ _

end Program

end ClientGen
