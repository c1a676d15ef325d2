import ClientGen.Proofs.Output

/-!
# What an interrupted run leaves

Services are written one after the other, each to its file before the next one is begun. If the text
of a service fails, the files of the services before it are on the disk, and every other file is as
it was (`generate_interrupted`). So the files under a directory are untouched just if each of those
that were written there held its new text already; nothing in a run sees to that. In `Halfway` the
second of two services fails, and the file of the first is overwritten.
-/

set_option autoImplicit false
set_option relaxedAutoImplicit false

namespace ClientGen

/-! ### Files that stay -/

namespace Disk

variable {disk middle later : Disk} {path text : String} {place root : Place}

/-- The files under a place are the same on both disks. -/
def KeepsFiles (disk later : Disk) (root : Place) : Prop :=
  ∀ place, root <+: place → ∀ content,
    later.entry? place = some (.file content) ↔ disk.entry? place = some (.file content)

namespace KeepsFiles

theorem refl (disk : Disk) (root : Place) : KeepsFiles disk disk root :=
  fun _ _ _ ↦ Iff.rfl

theorem trans (h : KeepsFiles disk middle root) (hmore : KeepsFiles middle later root) :
    KeepsFiles disk later root :=
  fun place hplace content ↦ (hmore place hplace content).trans (h place hplace content)

/-- A directory at a place where nothing was. -/
theorem put_directory (hfree : disk.entry? place = none) :
    KeepsFiles disk (disk.put place .directory) root := by
  intro other _ content
  by_cases hother : other = place
  · subst hother
    have hnonempty : other ≠ [] := by
      rintro rfl
      unfold Disk.entry? at hfree
      simp at hfree
    rw [entry?_put_self hnonempty, hfree]
    simp
  · rw [entry?_put_of_ne hother]

end KeepsFiles

theorem keepsFiles_of_makeDirectory (h : disk.makeDirectory path = .ok later) :
    KeepsFiles disk later root := by
  have hmade := eq_ok_of_mapError_eq_ok h
  cases hlast : lastName? path with
  | none =>
    rw [hlast] at hmade
    obtain ⟨_, -, hthrow⟩ := exists_of_bind_eq_ok hmade
    cases hthrow
  | some last =>
    obtain ⟨outer, name⟩ := last
    rw [hlast] at hmade
    obtain ⟨place, -, hput⟩ := exists_of_bind_eq_ok hmade
    cases hentry : disk.entry? place with
    | some entry =>
      rw [hentry] at hput
      cases hput
    | none =>
      rw [hentry] at hput
      cases hput
      exact .put_directory hentry

theorem keepsFiles_finish (path tail : String) (isInNew : Bool) (disk : Disk) :
    KeepsFiles disk (finish path tail isInNew disk).2 root := by
  unfold finish
  split
  · exact .refl disk root
  · split
    · next hmade => exact keepsFiles_of_makeDirectory hmade
    · split
      · exact .refl disk root
      · exact .refl disk root

theorem keepsFiles_makeDirectories (fuel : Nat) (path : String) (disk : Disk) :
    KeepsFiles disk (makeDirectories fuel path disk).2 root := by
  induction fuel generalizing path disk with
  | zero => exact .refl disk root
  | succ fuel ih =>
    rw [makeDirectories]
    split
    next head tail _ =>
    split
    · have houter : KeepsFiles disk (makeDirectories fuel head disk).2 root := ih head disk
      split
      · next failure made hmade =>
        rw [hmade] at houter
        split
        · exact houter.trans (keepsFiles_finish path tail true made)
        · exact houter
      · next made hmade =>
        rw [hmade] at houter
        exact houter.trans (keepsFiles_finish path tail true made)
    · exact keepsFiles_finish path tail false disk

/-- Making a directory changes no file. -/
theorem keepsFiles_ensureDirectory (disk : Disk) (path : String) :
    KeepsFiles disk (disk.ensureDirectory path).2 root :=
  keepsFiles_makeDirectories _ path disk

/-- Assumes: texts are written to a disk with the files of an earlier one. The files under a place
are those of the earlier disk just if each place there that a path leads to has what it had. -/
theorem keepsFiles_writeAll_iff {outputs : List (String × String)}
    (hkeeps : KeepsFiles disk middle root) (h : middle.writeAll outputs = .ok later) :
    KeepsFiles disk later root ↔ ∀ output ∈ outputs, ∀ place, later.place output.1 = .ok place →
      root <+: place → disk.entry? place = later.entry? place := by
  constructor
  · intro hall output hmem place hplace hunder
    obtain ⟨before, kept, after, -, -, -, hread⟩ := keepsLast_of_writeAll h output hmem
    obtain ⟨found, hfound, hentry⟩ := read_eq_ok_iff.mp hread
    rw [hplace, Except.ok.injEq] at hfound
    subst hfound
    rw [hentry]
    exact (hall place hunder _).mp hentry
  · intro hheld place hunder content
    by_cases hwritten : ∃ output ∈ outputs, later.place output.1 = .ok place
    · obtain ⟨output, hmem, hplace⟩ := hwritten
      rw [hheld output hmem place hplace hunder]
    · push Not at hwritten
      rw [entry?_of_writeAll h hwritten]
      exact hkeeps place hunder content

end Disk

/-! ### Runs that stop at a service -/

/-- The texts of services up to the first that fails, each written in the session that the one
before it left. -/
inductive Client.Stopped (client : Client) (failure : Client.Failure) :
    Client.Session → List Record.Service → List String → Prop
  | here {session next : Session} {service : Record.Service} {services : List Record.Service}
      (fails : (client.serviceText service).run.run session = (.error failure, next)) :
      Stopped client failure session (service :: services) []
  | later {session next : Session} {service : Record.Service} {services : List Record.Service}
      {text : String} {texts : List String}
      (written : (client.serviceText service).run.run session = (.ok text, next))
      (rest : Stopped client failure { next with entries := [] } services texts) :
      Stopped client failure session (service :: services) (text :: texts)

namespace Run

variable {α β : Type} {world after : World} {failure : Failure}

/-- A bound step fails if its first part does, or else its second. -/
theorem of_bind_error {x : Run α} {f : α → Run β}
    (h : (x >>= f).run.run world = (.error failure, after)) :
    x.run.run world = (.error failure, after) ∨
      ∃ a middle, x.run.run world = (.ok a, middle) ∧
        (f a).run.run middle = (.error failure, after) := by
  rw [run_bind_eq] at h
  cases hx : x.run.run world with
  | mk result middle =>
    rw [hx] at h
    cases result with
    | error =>
      cases h
      exact .inl rfl
    | ok a => exact .inr ⟨a, middle, rfl, h⟩

/-- A step that attempts something first fails later than that, unless it reports the attempt. -/
theorem of_attempt_bind_error {ε : Type} {cause : ε → Failure} {e : Except ε α} {f : α → Run β}
    (hother : ∀ found, cause found ≠ failure)
    (h : (attempt cause e >>= f).run.run world = (.error failure, after)) :
    ∃ a, e = .ok a ∧ (f a).run.run world = (.error failure, after) := by
  rcases of_bind_error h with hattempt | ⟨a, middle, hattempt, hnext⟩
  · cases e with
    | error found =>
      cases hattempt
      exact absurd rfl (hother found)
    | ok => cases hattempt
  · obtain ⟨ha, rfl⟩ := of_attempt hattempt
    exact ⟨a, ha, hnext⟩

theorem of_inClient_error {session : Client.Session} {step : Client.Step α}
    (h : (inClient session step).run.run world = (.error failure, after)) :
    ∃ cause left, step.run.run session = (.error cause, left) ∧ failure = .client cause ∧
      after.disk = world.disk := by
  unfold inClient at h
  cases hstep : step.run.run session with
  | mk result left =>
    rw [hstep] at h
    cases result with
    | error cause =>
      cases h
      exact ⟨cause, left, rfl, rfl, rfl⟩
    | ok => cases h

/-- Making the directory of a path, as a step of a run. -/
theorem run_ensureDirectory (path : String) (world : World) :
    (ensureDirectory path).run.run world =
      ((match (world.disk.ensureDirectory path).1 with
        | some found => .error (.disk found)
        | none => .ok ()),
      { world with disk := (world.disk.ensureDirectory path).2 }) := by
  have hget : (get : Run World).run.run world = (.ok world, world) := rfl
  unfold ensureDirectory
  rw [run_bind_eq, hget]
  dsimp only
  generalize world.disk.ensureDirectory path = made
  obtain ⟨found, disk⟩ := made
  cases found with
  | none => rfl
  | some found => rfl

theorem of_ensureDirectory_error {path : String}
    (h : (ensureDirectory path).run.run world = (.error failure, after)) :
    ∃ found, failure = .disk found := by
  rw [run_ensureDirectory] at h
  cases hfound : (world.disk.ensureDirectory path).1 with
  | none =>
    rw [hfound] at h
    cases h
  | some found =>
    rw [hfound] at h
    cases h
    exact ⟨found, rfl⟩

theorem of_ensureDirectory {path : String} {done : Unit}
    (h : (ensureDirectory path).run.run world = (.ok done, after)) :
    after.disk = (world.disk.ensureDirectory path).2 := by
  rw [run_ensureDirectory, Prod.mk.injEq] at h
  rw [← h.2]

section Files

variable {directory extension : String} {client : Client} {session : Client.Session}
  {services : List Record.Service} {cause : Client.Failure}

/-- Files are written up to the service whose text fails. -/
theorem writeFiles_eq_error
    (h : (writeFiles directory extension client session services).run.run world =
      (.error (.client cause), after)) :
    ∃ texts, client.Stopped cause session services texts ∧
      world.disk.writeAll ((services.map (filePath directory extension)).zip texts) =
        .ok after.disk := by
  induction services generalizing session world with
  | nil => cases h
  | cons service services ih =>
    rcases of_bind_error h with hclient | ⟨⟨text, next⟩, noted, hclient, hwriting⟩
    · obtain ⟨found, left, hfails, hcause, hdisk⟩ := of_inClient_error hclient
      cases hcause
      refine ⟨[], .here hfails, ?_⟩
      rw [List.zip_nil_right, hdisk]
      rfl
    obtain ⟨left, hwritten, rfl, hdisk⟩ := of_inClient hclient
    rcases of_bind_error hwriting with hget | ⟨held, _, hget, hputting⟩
    · cases hget
    obtain ⟨rfl, rfl⟩ := of_get hget
    obtain ⟨disk, hwrite, hkeeping⟩ := of_attempt_bind_error (by simp) hputting
    rcases of_bind_error hkeeping with hmodify | ⟨_, _, hmodify, hanswering⟩
    · cases hmodify
    obtain rfl := of_modify hmodify
    rcases of_bind_error hanswering with hrest | ⟨more, _, -, hlast⟩
    · obtain ⟨texts, hstopped, hwrites⟩ := ih hrest
      refine ⟨text :: texts, .later hwritten hstopped, ?_⟩
      rw [hdisk] at hwrite
      change (world.disk.write _ text >>= fun disk ↦ disk.writeAll _) = _
      rw [filePath, hwrite]
      exact hwrites
    · cases hlast

/-- A run fails at the text of a service once the directory is made and the files of the services
before it are written. -/
theorem generate_eq_error {settings : Client.Settings}
    (h : (generate settings services).run.run world = (.error (.client cause), after)) :
    ∃ directory client texts, settings.directory = .ok directory ∧
      Client.ofSettings settings = .ok client ∧
      client.Stopped cause (.start settings) services texts ∧
      (world.disk.ensureDirectory directory).2.writeAll
        ((services.map (filePath directory settings.extension)).zip texts) = .ok after.disk := by
  obtain ⟨client, hclient, hplacing⟩ := of_attempt_bind_error (by simp) h
  obtain ⟨directory, hdirectory, hmaking⟩ := of_attempt_bind_error (by simp) hplacing
  rcases of_bind_error hmaking with hmade | ⟨_, made, hmade, hwriting⟩
  · obtain ⟨found, hcause⟩ := of_ensureDirectory_error hmade
    cases hcause
  have hdisk := of_ensureDirectory hmade
  obtain ⟨texts, hstopped, hwrites⟩ := writeFiles_eq_error hwriting
  rw [hdisk] at hwrites
  exact ⟨directory, client, texts, hdirectory, hclient, hstopped, hwrites⟩

end Files

end Run

/-- Assumes: a run fails since the text of a service does. The services before that one are written:
each of their paths leads to the text of the last of them at its place, and any other file is as it
was. So the files under a place stay just if each place there that a service was written to has
what it had before, as it is when the first service fails. -/
theorem generate_interrupted {settings : Client.Settings} {services : List Record.Service}
    {world after : World} {cause : Client.Failure}
    (hrun : (Run.generate settings services).run.run world = (.error (.client cause), after)) :
    ∃ directory client texts outputs, settings.directory = .ok directory ∧
      Client.ofSettings settings = .ok client ∧
      client.Stopped cause (.start settings) services texts ∧
      outputs = (services.map (Run.filePath directory settings.extension)).zip texts ∧
      after.disk.KeepsLast outputs ∧
      (∀ place, (∀ output ∈ outputs, after.disk.place output.1 ≠ .ok place) → ∀ content,
        after.disk.entry? place = some (.file content) ↔
          world.disk.entry? place = some (.file content)) ∧
      ∀ root, world.disk.KeepsFiles after.disk root ↔
        ∀ output ∈ outputs, ∀ place, after.disk.place output.1 = .ok place → root <+: place →
          world.disk.entry? place = after.disk.entry? place := by
  obtain ⟨directory, client, texts, hdirectory, hclient, hstopped, hwrites⟩ :=
    Run.generate_eq_error hrun
  have hmade (root : Place) :
      world.disk.KeepsFiles (world.disk.ensureDirectory directory).2 root :=
    Disk.keepsFiles_ensureDirectory world.disk directory
  refine ⟨directory, client, texts, _, hdirectory, hclient, hstopped, rfl,
    Disk.keepsLast_of_writeAll hwrites, ?_, ?_⟩
  · intro place hother content
    rw [Disk.entry?_of_writeAll hwrites hother]
    exact hmade [] place List.nil_prefix content
  · intro root
    exact Disk.keepsFiles_writeAll_iff (hmade root) hwrites

namespace Halfway

/-- A service that places orders. -/
def orders : Record.Service where
  name := "Orders"
  comment := ""
  calls := [⟨"Place", "POST", "/orders", "Order", "Order", ""⟩]
  messages := []
  enums := []

/-- A service that lists and finds items. -/
def items : Record.Service where
  name := "Items"
  comment := ""
  calls := [
    ⟨"List", "GET", "/items", "Item", "Item", ""⟩, ⟨"Find", "GET", "/item", "Item", "Item", ""⟩]
  messages := []
  enums := []

/-- An override that fails when it is called. -/
def lateFailure : Script :=
  [.define "func_call" [] (some "args") [.fail (.call "ValueError" [.literal (.text "late")])] []]

/-- Settings that write calls as empty lines, except for the failing override. -/
def settings : Client.Settings :=
  .ofConfig { outputDir := "out", methodTemplate := "", overrides := [("Find", lateFailure)] }

/-- A disk with an older file for orders. -/
def world : World where
  disk :=
    { entries := [
        (["out".toList], .directory),
        (["out".toList, "Orders.ts".toList], .file (.text "older\n"))]
      directory := { names := [] } }

/-- The failure of the override. -/
def failure : Client.Failure :=
  .override (.call "func_calls[Find]" (.thrown ⟨"ValueError"⟩ "late"))

theorem generate_fails : ((Run.generate settings [orders, items]).run.run world).1 =
    .error (.client failure) := by
  decide +kernel

/-- The second method of the second service fails, and the file of the first is overwritten. -/
theorem orders_overwritten :
    ∃ after, (Run.generate settings [orders, items]).run.run world =
        (.error (.client failure), after) ∧
      after.disk.place "out" = .ok ["out".toList] ∧
      after.disk.read "out/Orders.ts" = .ok (.text "\n") ∧
      ¬world.disk.KeepsFiles after.disk ["out".toList] := by
  have hplace : ((Run.generate settings [orders, items]).run.run world).2.disk.place "out" =
      .ok ["out".toList] := by decide +kernel
  have hread : ((Run.generate settings [orders, items]).run.run world).2.disk.read
      "out/Orders.ts" = .ok (.text "\n") := by decide +kernel
  have hentry : Disk.entry? ((Run.generate settings [orders, items]).run.run world).2.disk
      ["out".toList, "Orders.ts".toList] = some (.file (.text "\n")) := by decide +kernel
  have holder : world.disk.entry? ["out".toList, "Orders.ts".toList] =
      some (.file (.text "older\n")) := by decide +kernel
  refine ⟨_, eq_mk_of_fst_eq generate_fails, hplace, hread, fun hkeeps ↦ ?_⟩
  have hsame := (hkeeps _ (List.prefix_append _ ["Orders.ts".toList]) _).mp hentry
  rw [List.singleton_append, holder] at hsame
  simp at hsame

theorem items_interrupted :
    ∃ after client texts, (Run.generate settings [orders, items]).run.run world =
        (.error (.client failure), after) ∧
      Client.ofSettings settings = .ok client ∧
      Client.Stopped client failure (.start settings) [orders, items] texts ∧
      after.disk.KeepsLast (([orders, items].map (Run.filePath "out" "ts")).zip texts) := by
  have hrun := eq_mk_of_fst_eq generate_fails
  obtain ⟨directory, client, texts, outputs, hdirectory, hclient, hstopped, rfl, hkeeps, -, -⟩ :=
    generate_interrupted hrun
  cases hdirectory
  exact ⟨_, client, texts, hrun, hclient, hstopped, hkeeps⟩

end Halfway

end ClientGen
