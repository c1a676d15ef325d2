import ClientGen.Proofs.Path.Absolute
import ClientGen.Proofs.Results
import ClientGen.Run
import Mathlib.Data.List.Nodup

/-!
# Include paths

The compiler holds the sources against the include paths as texts, so what it is given has to agree
as text. The include paths are the first occurrences (`KeepsFirsts`) of what is asked for: the paths
to import from, the directory of the sources, the usual paths (`includes_eq`). All of them are
normal, and a normal path has one text. A source is joined to the directory as it was written, and
made absolute by itself; it is still the absolute directory with the name of the source at its end
(`sources_eq`). Both together are the argument list (`Run.compile_reaches_sources`).
-/

set_option autoImplicit false
set_option relaxedAutoImplicit false

namespace ClientGen

/-- A list keeps of another one the first occurrences: each entry is there once, and they are in
order of where they come up first. -/
structure KeepsFirsts {α : Type} [BEq α] (all kept : List α) : Prop where
  nodup : kept.Nodup
  mem_iff : ∀ entry, entry ∈ kept ↔ entry ∈ all
  ordered : kept.Pairwise (all.idxOf · < all.idxOf ·)

section

variable {α : Type} [BEq α] [LawfulBEq α] {all kept : List α} {entry : α}

/-- What comes later does not move a first occurrence. -/
theorem KeepsFirsts.idxOf_append (h : KeepsFirsts all kept) (rest : List α) {other : α}
    (hother : other ∈ kept) : (all ++ rest).idxOf other = all.idxOf other :=
  List.idxOf_append_of_mem ((h.mem_iff other).mp hother)

theorem KeepsFirsts.ordered_append (h : KeepsFirsts all kept) (rest : List α) :
    kept.Pairwise ((all ++ rest).idxOf · < (all ++ rest).idxOf ·) :=
  h.ordered.imp_of_mem fun hfirst hsecond hlt ↦ by
    rwa [h.idxOf_append rest hfirst, h.idxOf_append rest hsecond]

/-- One more entry is kept if it was not there before. -/
theorem KeepsFirsts.concat (h : KeepsFirsts all kept) (hnew : entry ∉ all) :
    KeepsFirsts (all ++ [entry]) (kept ++ [entry]) where
  nodup := by
    rw [← List.concat_eq_append]
    exact List.Nodup.concat (fun hmem ↦ hnew ((h.mem_iff entry).mp hmem)) h.nodup
  mem_iff other := by simp [h.mem_iff]
  ordered := by
    refine List.pairwise_append.mpr ⟨h.ordered_append _, List.pairwise_singleton _ _, ?_⟩
    intro other hother last hlast
    obtain rfl := List.mem_singleton.mp hlast
    have hlt := List.idxOf_lt_length_of_mem ((h.mem_iff other).mp hother)
    rw [h.idxOf_append _ hother, List.idxOf_append_of_notMem hnew]
    omega

/-- An entry that was there before changes nothing. -/
theorem KeepsFirsts.again (h : KeepsFirsts all kept) (hold : entry ∈ all) :
    KeepsFirsts (all ++ [entry]) kept where
  nodup := h.nodup
  mem_iff other := by
    rw [h.mem_iff, List.mem_append, List.mem_singleton]
    exact ⟨.inl, fun hother ↦ hother.elim id fun heq ↦ heq ▸ hold⟩
  ordered := h.ordered_append _

/-- The induction is on the end of the list, since each entry is held against those before it. -/
theorem keepsFirsts_eraseDups (all : List α) : KeepsFirsts all all.eraseDups := by
  induction all using List.reverseRecOn with
  | nil => exact ⟨List.nodup_nil, fun _ ↦ Iff.rfl, List.Pairwise.nil⟩
  | append_singleton front entry ih =>
    rw [List.eraseDups_append]
    by_cases hentry : entry ∈ front
    · simpa [List.removeAll, hentry] using ih.again hentry
    · simpa [List.removeAll, hentry, List.eraseDups_cons] using ih.concat hentry

end

/-! ### The argument list -/

namespace Compiler

variable {environment : Environment} {working : AbsolutePath} {names : List String}

/-- The include paths that are asked for, the directory of the sources and the usual ones, as
absolute paths. -/
def asked (environment : Environment) (working : AbsolutePath) (directory : String)
    (imports : List String) : List String :=
  (imports ++ [directory] ++ environment.roots).map fun path ↦ (Path.absolute working path).text

/-- The usual include paths are normal, so the include paths are those that are asked for, each
once. -/
theorem includes_eq
    (hroots : ∀ root ∈ environment.roots, ∃ path : AbsolutePath, path.IsNormal ∧ path.text = root)
    (directory : String) (imports : List String) :
    includes environment working directory imports =
      (asked environment working directory imports).eraseDups := by
  have hsame : environment.roots.map (fun path ↦ (Path.absolute working path).text) =
      environment.roots := by
    conv_rhs => rw [← List.map_id environment.roots]
    refine List.map_congr_left fun root hroot ↦ ?_
    obtain ⟨path, hnormal, rfl⟩ := hroots root hroot
    rw [hnormal.absolute_text, id]
  unfold includes asked
  conv_lhs => rw [← hsame, ← List.map_append]

/-- Every include path is normal. -/
theorem isNormal_of_mem_asked (hworking : working.IsNormal) {directory path : String}
    {imports : List String} (hpath : path ∈ asked environment working directory imports) :
    ∃ absolute : AbsolutePath, absolute.IsNormal ∧ absolute.text = path := by
  obtain ⟨written, -, rfl⟩ := List.mem_map.mp hpath
  exact ⟨_, hworking.absolute written, rfl⟩

/-- The directory of the sources is among the include paths, as it stands in the sources. -/
theorem text_absolute_mem_asked (environment : Environment) (working : AbsolutePath)
    (directory : String) (imports : List String) :
    (Path.absolute working directory).text ∈ asked environment working directory imports :=
  List.mem_map.mpr ⟨directory, by simp, rfl⟩

/-- A source is its name in the absolute directory, in whatever way the directory is written. -/
theorem sources_eq (hnames : ∀ name ∈ names, Path.IsName name.toList) (working : AbsolutePath)
    (directory : String) :
    sources working directory names =
      names.map fun name ↦ ((Path.absolute working directory).child name.toList).text :=
  List.map_congr_left fun name hname ↦ by rw [(hnames name hname).absolute_join]

end Compiler

/-- A call of the compiler is noted, whatever comes of it, and also if it cannot be made. -/
theorem Run.calls_compile (environment : Compiler.Environment) (world : World)
    (program directory : String) (imports names : List String) :
    ((Run.compile environment program directory imports names).run.run world).2.calls =
      world.calls ++ [
        Compiler.arguments environment world.disk.directory program directory imports names] := by
  generalize harguments :
    Compiler.arguments environment world.disk.directory program directory imports names = call
  let noted : World := { world with
    entries := world.entries ++ [⟨.debug, "Running " ++ " ".intercalate call⟩]
    calls := world.calls ++ [call] }
  have hcompile : (Run.compile environment program directory imports names).run.run world =
      (Run.attempt .disk (Compiler.checkArguments call) >>= fun _ ↦
        Run.attempt .compiler ((environment.compile call).files program)).run.run noted := by
    subst harguments
    rfl
  rw [hcompile, run_bind_eq]
  cases Compiler.checkArguments call with
  | error failure => rfl
  | ok done => cases (environment.compile call).files program <;> rfl

/-- The sources that the compiler is given lie directly in a directory that is one of the include
paths, as text. The include paths are the first occurrences among the absolute paths that are asked
for, and each of them is normal.
Assumes: the working directory and the usual include paths are normal, and the sources are named. -/
theorem Run.compile_reaches_sources {environment : Compiler.Environment} {world : World}
    {names : List String} (hworking : world.disk.directory.IsNormal)
    (hroots : ∀ root ∈ environment.roots, ∃ path : AbsolutePath, path.IsNormal ∧ path.text = root)
    (hnames : ∀ name ∈ names, Path.IsName name.toList)
    (program directory : String) (imports : List String) :
    let inside := Path.absolute world.disk.directory directory
    ∃ found : List String,
      ((Run.compile environment program directory imports names).run.run world).2.calls =
        world.calls ++ [
          [program, "--include_imports", "--include_source_info",
            "--descriptor_set_out=" ++ Path.join environment.scratch "descriptor_set.pb"] ++
          found.flatMap (["-I", ·]) ++ names.map (Path.join inside.text)] ∧
      KeepsFirsts (Compiler.asked environment world.disk.directory directory imports) found ∧
      (∀ path ∈ found, ∃ absolute : AbsolutePath, absolute.IsNormal ∧ absolute.text = path) ∧
      inside.text ∈ found ∧
      ∀ name ∈ names, Path.join inside.text name = (inside.child name.toList).text := by
  intro inside
  have hkept := keepsFirsts_eraseDups
    (Compiler.asked environment world.disk.directory directory imports)
  have hjoin : ∀ name ∈ names, Path.join inside.text name = (inside.child name.toList).text :=
    fun name hname ↦ (hnames name hname).join_text (hworking.absolute directory)
  have hsources : Compiler.sources world.disk.directory directory names =
      names.map (Path.join inside.text) := by
    rw [Compiler.sources_eq hnames]
    exact List.map_congr_left fun name hname ↦ (hjoin name hname).symm
  refine ⟨_, ?_, hkept, fun path hpath ↦ ?_, ?_, hjoin⟩
  · rw [← hsources, ← Compiler.includes_eq hroots]
    exact calls_compile ..
  · exact Compiler.isNormal_of_mem_asked hworking ((hkept.mem_iff path).mp hpath)
  · exact (hkept.mem_iff _).mpr (Compiler.text_absolute_mem_asked ..)

namespace Gazetteer

def environment : Compiler.Environment where
  roots := ["/usr/share/schemas"]
  scratch := "/tmp/run"
  compile _ := .missing

def world : World where
  disk := { directory := ⟨false, ["home".toList, "atlas".toList]⟩ }

/-- A directory that is written in two ways is one include path. -/
theorem call_reaches_sources :
    world.disk.directory.IsNormal ∧
      (∀ root ∈ environment.roots, ∃ path : AbsolutePath, path.IsNormal ∧ path.text = root) ∧
      (∀ name ∈ ["city.proto"], Path.IsName name.toList) ∧
      ∃ found : List String,
        ((Run.compile environment "protoc" "maps//../schemas/" ["../lib", "./schemas"]
          ["city.proto"]).run.run world).2.calls = [
            ["protoc", "--include_imports", "--include_source_info",
              "--descriptor_set_out=/tmp/run/descriptor_set.pb"] ++
            found.flatMap (["-I", ·]) ++ ["/home/atlas/schemas/city.proto"]] ∧
        KeepsFirsts ["/home/lib", "/home/atlas/schemas", "/home/atlas/schemas",
          "/usr/share/schemas"] found ∧
        "/home/atlas/schemas" ∈ found := by
  have hworking : world.disk.directory.IsNormal := by decide
  have hroots : ∀ root ∈ environment.roots,
      ∃ path : AbsolutePath, path.IsNormal ∧ path.text = root := by
    intro root hroot
    obtain rfl := List.mem_singleton.mp hroot
    exact ⟨⟨false, ["usr".toList, "share".toList, "schemas".toList]⟩, by decide, by decide +kernel⟩
  have hnames : ∀ name ∈ ["city.proto"], Path.IsName name.toList := by decide
  have hasked : Compiler.asked environment world.disk.directory "maps//../schemas/"
      ["../lib", "./schemas"] = ["/home/lib", "/home/atlas/schemas", "/home/atlas/schemas",
        "/usr/share/schemas"] := by decide +kernel
  have htext : (Path.absolute world.disk.directory "maps//../schemas/").text =
      "/home/atlas/schemas" := by decide +kernel
  have hsource : Path.join "/home/atlas/schemas" "city.proto" =
      "/home/atlas/schemas/city.proto" := by decide +kernel
  have hset : "--descriptor_set_out=" ++ Path.join environment.scratch "descriptor_set.pb" =
      "--descriptor_set_out=/tmp/run/descriptor_set.pb" := by decide +kernel
  obtain ⟨found, hcalls, hkept, -, hinside, -⟩ := Run.compile_reaches_sources hworking hroots hnames
    "protoc" "maps//../schemas/" ["../lib", "./schemas"]
  rw [htext] at hcalls hinside
  rw [hasked] at hkept
  rw [List.map_singleton, hsource, hset] at hcalls
  exact ⟨hworking, hroots, hnames, found, hcalls, hkept, hinside⟩

end Gazetteer

end ClientGen
