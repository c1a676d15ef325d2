import ClientGen.Proofs.Disk
import ClientGen.Proofs.Flattening.Budget
import ClientGen.Run
import Mathlib.Data.List.Nodup

/-!
# What is left of the files of services

A run writes the file of a service under its short name. Files of one name go to one place, and the
place keeps the text that was written last (`generate_keeps_last`). So no text is lost just if the
names are distinct, which nothing in a run sees to: services of different packages may share one,
as in `Twins`. A disk has neither symbolic nor hard links; with them, files of different names may
be one, and a text may be lost all the same.
-/

set_option autoImplicit false
set_option relaxedAutoImplicit false

namespace ClientGen

/-- The texts of services, each written in the session that the one before it left. -/
inductive Client.Rendered (client : Client) :
    Client.Session → List Record.Service → List String → Prop
  | nil {session : Session} : Rendered client session [] []
  | cons {session next : Session} {service : Record.Service} {services : List Record.Service}
      {text : String} {texts : List String}
      (written : (client.serviceText service).run.run session = (.ok text, next))
      (rest : Rendered client { next with entries := [] } services texts) :
      Rendered client session (service :: services) (text :: texts)

theorem Client.Rendered.length_eq {client : Client} {session : Client.Session}
    {services : List Record.Service} {texts : List String}
    (h : client.Rendered session services texts) : texts.length = services.length := by
  induction h with
  | nil => rfl
  | cons _ _ ih => rw [List.length_cons, List.length_cons, ih]

namespace Run

variable {α β : Type} {world after : World}

/-! ### Steps of a run that goes on -/

theorem exists_of_bind {x : Run α} {f : α → Run β} {b : β}
    (h : (x >>= f).run.run world = (.ok b, after)) :
    ∃ a middle, x.run.run world = (.ok a, middle) ∧ (f a).run.run middle = (.ok b, after) := by
  rw [ExceptT.run_bind, StateT.run_bind] at h
  cases hx : x.run.run world with
  | mk result middle =>
    rw [hx] at h
    cases result with
    | error => cases h
    | ok a => exact ⟨a, middle, rfl, h⟩

theorem of_attempt {ε : Type} {failure : ε → Failure} {e : Except ε α} {a : α}
    (h : (attempt failure e).run.run world = (.ok a, after)) : e = .ok a ∧ after = world := by
  cases e with
  | error => cases h
  | ok =>
    cases h
    exact ⟨rfl, rfl⟩

theorem of_get {held : World} (h : (get : Run World).run.run world = (.ok held, after)) :
    held = world ∧ after = world := by
  cases h
  exact ⟨rfl, rfl⟩

theorem of_modify {f : World → World} {done : Unit}
    (h : (modify f : Run Unit).run.run world = (.ok done, after)) : after = f world := by
  cases h
  rfl

/-- Writing leaves the disk alone, and its log goes to the run. -/
theorem of_inClient {session next : Client.Session} {step : Client.Step α} {a : α}
    (h : (inClient session step).run.run world = (.ok (a, next), after)) :
    ∃ left, step.run.run session = (.ok a, left) ∧ next = { left with entries := [] } ∧
      after.disk = world.disk := by
  unfold inClient at h
  cases hstep : step.run.run session with
  | mk result left =>
    rw [hstep] at h
    cases result with
    | error => cases h
    | ok =>
      cases h
      exact ⟨left, rfl, rfl, rfl⟩

/-! ### Writing files -/

section Files

variable {directory extension : String} {client : Client} {session : Client.Session}
  {services : List Record.Service} {paths : List String}

/-- Files are written one after the other, each under its path, with the texts of the services. -/
theorem writeFiles_eq_ok
    (h : (writeFiles directory extension client session services).run.run world =
      (.ok paths, after)) :
    ∃ texts, client.Rendered session services texts ∧
      paths = services.map (outputPath directory extension) ∧
      world.disk.writeAll ((paths.map Path.tidy).zip texts) = .ok after.disk := by
  induction services generalizing session world paths with
  | nil =>
    cases h
    exact ⟨[], .nil, rfl, rfl⟩
  | cons service services ih =>
    obtain ⟨⟨text, next⟩, noted, hclient, hwriting⟩ := exists_of_bind h
    obtain ⟨left, hrendered, rfl, hdisk⟩ := of_inClient hclient
    obtain ⟨held, _, hget, hputting⟩ := exists_of_bind hwriting
    obtain ⟨rfl, rfl⟩ := of_get hget
    obtain ⟨disk, _, hattempt, hkeeping⟩ := exists_of_bind hputting
    obtain ⟨hwrite, rfl⟩ := of_attempt hattempt
    obtain ⟨_, _, hmodify, hanswering⟩ := exists_of_bind hkeeping
    obtain rfl := of_modify hmodify
    obtain ⟨more, _, hrest, hlast⟩ := exists_of_bind hanswering
    cases hlast
    obtain ⟨texts, htexts, rfl, hwrites⟩ := ih hrest
    refine ⟨text :: texts, .cons hrendered htexts, rfl, ?_⟩
    rw [hdisk] at hwrite
    change (world.disk.write _ text >>= fun disk ↦ disk.writeAll _) = _
    rw [hwrite]
    exact hwrites

/-- What a run that writes files does after it has made the directory. -/
theorem generate_eq_ok {settings : Client.Settings}
    (h : (generate settings services).run.run world = (.ok paths, after)) :
    ∃ directory client texts disk, settings.directory = .ok directory ∧
      Client.ofSettings settings = .ok client ∧
      client.Rendered (.start settings) services texts ∧
      paths = services.map (outputPath directory settings.extension) ∧
      Disk.writeAll disk ((paths.map Path.tidy).zip texts) = .ok after.disk := by
  obtain ⟨client, _, hreading, hplacing⟩ := exists_of_bind h
  obtain ⟨hclient, rfl⟩ := of_attempt hreading
  obtain ⟨directory, _, hnaming, hmaking⟩ := exists_of_bind hplacing
  obtain ⟨hdirectory, rfl⟩ := of_attempt hnaming
  obtain ⟨_, made, -, hwriting⟩ := exists_of_bind hmaking
  obtain ⟨texts, hrendered, hpaths, hwrites⟩ := writeFiles_eq_ok hwriting
  exact ⟨directory, client, texts, made.disk, hdirectory, hclient, hrendered, hpaths, hwrites⟩

/-- The name of the file of a service. -/
def fileName (extension : String) (service : Record.Service) : String :=
  service.name ++ "." ++ extension

/-- The path that the file of a service is written under. -/
def filePath (directory extension : String) (service : Record.Service) : String :=
  Path.tidy (outputPath directory extension service)

theorem name_eq_of_fileName {first second : Record.Service}
    (h : fileName extension first = fileName extension second) : first.name = second.name := by
  have hcs := congrArg String.toList h
  simpa [fileName, String.toList_inj] using hcs

/-- Assumes: neither the name of the service nor the extension has a slash, and there is a name. -/
theorem endsIn_filePath (directory : String) {service : Record.Service}
    (hextension : '/' ∉ extension.toList) (hname : service.name ≠ "")
    (hslash : '/' ∉ service.name.toList) :
    Path.EndsIn (filePath directory extension service).toList
      (fileName extension service).toList := by
  have hplain : '/' ∉ (fileName extension service).toList := by
    simp [fileName, hextension, hslash]
  refine Path.endsIn_tidy (Path.endsIn_join directory hplain) ?_ ?_
  · simp [fileName]
  · intro hdot
    have hlength : service.name.toList.length + (extension.toList.length + 1) = 1 := by
      simpa [fileName] using congrArg List.length hdot
    have hnone : service.name.toList = [] := List.length_eq_zero_iff.mp (by omega)
    exact hname (String.toList_eq_nil_iff.mp hnone)

section Apart

variable {disk later : Disk} {outputs : List (String × String)}

/-- Assumes: the names of the services are distinct, and they and the extension have no slash. The
places that the paths lead to are distinct too. -/
theorem eq_of_place_eq (hextension : '/' ∉ extension.toList)
    (hnames : ∀ service ∈ services, service.name ≠ "" ∧ '/' ∉ service.name.toList)
    (hnodup : (services.map Record.Service.name).Nodup)
    (hwrites : disk.writeAll outputs = .ok later)
    (hpaths : outputs.map Prod.fst = services.map (filePath directory extension))
    {first second : Record.Service} (hfirst : first ∈ services) (hsecond : second ∈ services)
    (hplace : later.place (filePath directory extension first) =
      later.place (filePath directory extension second)) : first = second := by
  have hled (service : Record.Service) (hservice : service ∈ services) :
      ∃ inner, later.place (filePath directory extension service) =
        .ok (inner ++ [(fileName extension service).toList]) := by
    have hmem : filePath directory extension service ∈ outputs.map Prod.fst := by
      rw [hpaths]
      exact List.mem_map_of_mem hservice
    obtain ⟨inner, name, hplace, hends⟩ := Disk.place_of_writeAll hwrites hmem
    obtain ⟨hname, hslash⟩ := hnames service hservice
    have hfile := endsIn_filePath directory hextension hname hslash
    exact ⟨inner, by rw [hplace, hends.unique hfile]⟩
  obtain ⟨firstInner, hfirstPlace⟩ := hled first hfirst
  obtain ⟨secondInner, hsecondPlace⟩ := hled second hsecond
  rw [hfirstPlace, hsecondPlace, Except.ok.injEq] at hplace
  have hfile := List.singleton_inj.mp (List.append_inj_right' hplace rfl)
  have hname := name_eq_of_fileName (String.toList_inj.mp hfile)
  exact List.inj_on_of_nodup_map hnodup hfirst hsecond hname

/-- Assumes: the names of the services are distinct, and they and the extension have no slash. No
text is lost. -/
theorem keeps_of_nodup (hextension : '/' ∉ extension.toList)
    (hnames : ∀ service ∈ services, service.name ≠ "" ∧ '/' ∉ service.name.toList)
    (hnodup : (services.map Record.Service.name).Nodup)
    (hwrites : disk.writeAll outputs = .ok later)
    (hpaths : outputs.map Prod.fst = services.map (filePath directory extension)) :
    (services.map (filePath directory extension)).Nodup ∧ later.Keeps outputs := by
  have hfiles : (services.map (filePath directory extension)).Nodup := by
    refine List.Nodup.map_on ?_ (List.Nodup.of_map _ hnodup)
    intro first hfirst second hsecond hpath
    refine eq_of_place_eq hextension hnames hnodup hwrites hpaths hfirst hsecond ?_
    rw [hpath]
  refine ⟨hfiles, (Disk.keepsLast_of_writeAll hwrites).keeps ?_⟩
  intro first hfirst second hsecond hplace
  have hservice (output : String × String) (hmem : output ∈ outputs) :
      ∃ service ∈ services, filePath directory extension service = output.1 := by
    have hpath : output.1 ∈ outputs.map Prod.fst := List.mem_map_of_mem hmem
    rw [hpaths] at hpath
    exact List.mem_map.mp hpath
  obtain ⟨firstService, hfirstMem, hfirstPath⟩ := hservice first hfirst
  obtain ⟨secondService, hsecondMem, hsecondPath⟩ := hservice second hsecond
  rw [← hfirstPath, ← hsecondPath] at hplace
  have hsame := eq_of_place_eq hextension hnames hnodup hwrites hpaths hfirstMem hsecondMem hplace
  refine List.inj_on_of_nodup_map (hpaths ▸ hfiles) hfirst hsecond ?_
  rw [← hfirstPath, ← hsecondPath, hsame]

end Apart

end Files

end Run

/-- Assumes: a run that writes files returns. The paths are those of the services, and each of them
leads to the text of the last service at its place. If neither the names of the services nor the
extension have slashes, then no text is lost just if the names are distinct. This presupposes a disk
without symbolic or hard links, on which different names in a directory are different files. -/
theorem generate_keeps_last {settings : Client.Settings} {services : List Record.Service}
    {world after : World} {paths : List String}
    (hrun : (Run.generate settings services).run.run world = (.ok paths, after)) :
    ∃ directory client texts, settings.directory = .ok directory ∧
      Client.ofSettings settings = .ok client ∧
      client.Rendered (.start settings) services texts ∧
      paths = services.map (Run.outputPath directory settings.extension) ∧
      after.disk.KeepsLast ((paths.map Path.tidy).zip texts) ∧
      ('/' ∉ settings.extension.toList →
        (∀ service ∈ services, service.name ≠ "" ∧ '/' ∉ service.name.toList) →
        (paths.Nodup ∧ after.disk.Keeps ((paths.map Path.tidy).zip texts) ↔
          (services.map Record.Service.name).Nodup)) := by
  obtain ⟨directory, client, texts, disk, hdirectory, hclient, hrendered, rfl, hwrites⟩ :=
    Run.generate_eq_ok hrun
  refine ⟨directory, client, texts, hdirectory, hclient, hrendered, rfl,
    Disk.keepsLast_of_writeAll hwrites, fun hextension hnames ↦ ⟨?_, fun hnodup ↦ ?_⟩⟩
  · rintro ⟨hnodup, -⟩
    have hpaths : services.map (Run.outputPath directory settings.extension) =
        (services.map Record.Service.name).map fun name ↦
          Path.join directory (name ++ "." ++ settings.extension) := by
      rw [List.map_map]
      rfl
    rw [hpaths] at hnodup
    exact hnodup.of_map
  · have hfiles : (services.map (Run.outputPath directory settings.extension)).map Path.tidy =
        services.map (Run.filePath directory settings.extension) := List.map_map
    rw [hfiles] at hwrites ⊢
    obtain ⟨hnodup, hkeeps⟩ := Run.keeps_of_nodup hextension hnames hnodup hwrites
      (List.map_fst_zip (by simp [hrendered.length_eq]))
    rw [← hfiles] at hnodup
    exact ⟨hnodup.of_map, hkeeps⟩

namespace Twins

/-- The descriptors of two packages with a service of one name each. -/
def descriptors : List Descriptor.File :=
  [{ name := "orders.proto"
     package := "orders"
     messages := [
       { name := "Order", fields := [{ name := "id", jsonName := some "id", type := .string }] }]
     services := [
       { name := "Api"
         methods := [
           { name := "Find", input := ".orders.Order", output := ".orders.Order"
             rule := some ⟨some (.get "/orders")⟩ }] }] },
   { name := "items.proto"
     package := "items"
     messages := [
       { name := "Item", fields := [{ name := "id", jsonName := some "id", type := .string }] }]
     services := [
       { name := "Api"
         methods := [
           { name := "Find", input := ".items.Item", output := ".items.Item"
             rule := some ⟨some (.get "/items")⟩ }] }] }]

/-- The service for orders. -/
def ordersApi : Declaration.Service :=
  ⟨"Api", "", "orders.proto", [
    ⟨"Find", ".orders.Order", ".orders.Order", false, false, "", some ⟨some (.get "/orders")⟩⟩]⟩

/-- The service for items. -/
def itemsApi : Declaration.Service :=
  ⟨"Api", "", "items.proto", [
    ⟨"Find", ".items.Item", ".items.Item", false, false, "", some ⟨some (.get "/items")⟩⟩]⟩

/-- The linked packages. -/
def schema : Schema :=
  ⟨[⟨"orders.proto", "orders", [
      ⟨"Order", ".orders.Order", "", false, none, [⟨"id", "id", .string, false, "", .scalar⟩],
        [], []⟩], [], [ordersApi]⟩,
    ⟨"items.proto", "items", [
      ⟨"Item", ".items.Item", "", false, none, [⟨"id", "id", .string, false, "", .scalar⟩],
        [], []⟩], [], [itemsApi]⟩]⟩

/-- The records of the service for orders. -/
def orders : Record.Service where
  name := "Api"
  comment := ""
  calls := [⟨"Find", "GET", "/orders", "Order", "Order", ""⟩]
  messages := [⟨"Order", "", [⟨"id", "TYPE_STRING", .scalar "TYPE_STRING" false, ""⟩]⟩]
  enums := []

/-- The records of the service for items. -/
def items : Record.Service where
  name := "Api"
  comment := ""
  calls := [⟨"Find", "GET", "/items", "Item", "Item", ""⟩]
  messages := [⟨"Item", "", [⟨"id", "TYPE_STRING", .scalar "TYPE_STRING" false, ""⟩]⟩]
  enums := []

/-- Settings that write calls as empty lines. -/
def settings : Client.Settings :=
  .ofConfig { outputDir := "out", methodTemplate := "" }

/-- An empty disk, to work on from its root. -/
def world : World where
  disk := { directory := { names := [] } }

/-- The text of the service for orders. -/
def ordersText : String :=
  "\nexport interface Order \x7b\n  id: string;\n\x7d\n\n"

theorem flatten_orders : (flatten schema true ordersApi).map (·.service) = .ok orders := by
  simp only [flatten, ordersApi, List.foldlM_cons, List.foldlM_nil, Flattening.Context.walkMethod,
    Flattening.Context.walkRoute, Flattening.Context.walkMessage, Flattening.Context.drain_eq]
  decide +kernel

theorem flatten_items : (flatten schema true itemsApi).map (·.service) = .ok items := by
  simp only [flatten, itemsApi, List.foldlM_cons, List.foldlM_nil, Flattening.Context.walkMethod,
    Flattening.Context.walkRoute, Flattening.Context.walkMessage, Flattening.Context.drain_eq]
  decide +kernel

/-- Both services are selected and flattened, and the text of the first is gone. -/
theorem orders_lost :
    Schema.link descriptors = .ok schema ∧
      Selection.services schema.files ["orders.proto", "items.proto"] = .ok [ordersApi, itemsApi] ∧
      (flatten schema true ordersApi).map (·.service) = .ok orders ∧
      (flatten schema true itemsApi).map (·.service) = .ok items ∧
      ∃ paths after client texts,
        (Run.generate settings [orders, items]).run.run world = (.ok paths, after) ∧
        Client.ofSettings settings = .ok client ∧
        client.Rendered (.start settings) [orders, items] texts ∧
        ¬paths.Nodup ∧ ¬after.disk.Keeps ((paths.map Path.tidy).zip texts) := by
  have hpaths : ((Run.generate settings [orders, items]).run.run world).1 =
      .ok ["out/Api.ts", "out/Api.ts"] := by decide +kernel
  have htext : (Client.ofSettings settings).map (fun client ↦
      ((client.serviceText orders).run.run (.start settings)).1) = .ok (.ok ordersText) := by
    decide +kernel
  have hread : ((Run.generate settings [orders, items]).run.run world).2.disk.read "out/Api.ts" ≠
      .ok (.text ordersText) := by decide +kernel
  have htidy : ["out/Api.ts", "out/Api.ts"].map Path.tidy = ["out/Api.ts", "out/Api.ts"] := by
    decide +kernel
  have hrun := eq_mk_of_fst_eq hpaths
  obtain ⟨directory, client, texts, disk, -, hclient, hrendered, -, -⟩ :=
    Run.generate_eq_ok hrun
  rw [hclient] at htext
  have hrendering : ((client.serviceText orders).run.run (.start settings)).1 = .ok ordersText :=
    Except.ok.inj htext
  refine ⟨rfl, rfl, flatten_orders, flatten_items, _, _, client, texts, hrun, hclient, hrendered,
    by decide, fun hkeeps ↦ hread ?_⟩
  cases hrendered with
  | cons hwritten _ =>
    rw [hwritten] at hrendering
    cases hrendering
    rw [htidy] at hkeeps
    exact hkeeps ("out/Api.ts", ordersText) List.mem_cons_self

/-- The service for items under a name of its own. -/
def renamed : Record.Service :=
  { items with name := "Items" }

theorem kept_apart :
    ∃ after client texts,
      (Run.generate settings [orders, renamed]).run.run world =
        (.ok ["out/Api.ts", "out/Items.ts"], after) ∧
      Client.ofSettings settings = .ok client ∧
      client.Rendered (.start settings) [orders, renamed] texts ∧
      after.disk.Keeps (["out/Api.ts", "out/Items.ts"].zip texts) := by
  have hpaths : ((Run.generate settings [orders, renamed]).run.run world).1 =
      .ok ["out/Api.ts", "out/Items.ts"] := by decide +kernel
  have hrun := eq_mk_of_fst_eq hpaths
  obtain ⟨directory, client, texts, -, hclient, hrendered, -, -, hkeeps⟩ :=
    generate_keeps_last hrun
  have htidy : ["out/Api.ts", "out/Items.ts"].map Path.tidy = ["out/Api.ts", "out/Items.ts"] := by
    decide +kernel
  have hkept := (hkeeps (by decide) (by decide)).mpr (by decide)
  rw [htidy] at hkept
  exact ⟨_, client, texts, hrun, hclient, hrendered, hkept.2⟩

end Twins

end ClientGen
