import ClientGen.Proofs.Disk.Tree
import ClientGen.Sources

/-!
# Listing schema files

A name in a directory is left out by two paths, that of the name and the excluded one, which are both
joined to the directory as it was written and then made absolute by their texts. Both are what they
are inside the absolute directory, so the comparison does not depend on the spelling of either
(`Sources.contains_located_iff`). The absolute path of the name is then looked up. In a system with
links it need not lead to what was listed; on a disk that is a tree it does, unless it is too long
(`Disk.IsTree.isFile_child_iff`). So the list is exact for the paths that lead to files, and on a
disk for the files whose paths are not too long (`Sources.list_exact`). In `Depths` the path of the
only schema file is too long.
-/

set_option autoImplicit false
set_option relaxedAutoImplicit false

namespace ClientGen

open ClientGen.Path

/-! ### The names in a directory -/

namespace Disk

variable {disk : Disk} {path : String} {place : Place} {names : List String}

/-- The name of an entry in a directory. -/
def nameIn (place : Place) : Place × Entry → Option String :=
  fun (other, _) ↦
    match other.getLast? with
    | some name => if other.dropLast = place then some (String.ofList name) else none
    | none => none

theorem nameIn_eq_some_iff {other : Place × Entry} {name : String} :
    nameIn place other = some name ↔ other.1 = place ++ [name.toList] := by
  obtain ⟨other, entry⟩ := other
  rcases List.eq_nil_or_concat other with rfl | ⟨outer, last, rfl⟩
  · simp [nameIn]
  · rw [List.concat_eq_append]
    simp only [nameIn, List.getLast?_concat, List.dropLast_concat, Option.ite_none_right_eq_some,
      Option.some.injEq]
    constructor
    · rintro ⟨rfl, rfl⟩
      rw [String.toList_ofList]
    · intro heq
      obtain ⟨rfl, hsame⟩ := List.append_inj' heq rfl
      exact ⟨rfl, by rw [List.singleton_inj.mp hsame, String.ofList_toList]⟩

theorem list_eq_ok_iff : disk.list path = .ok names ↔
    ∃ place, disk.place path = .ok place ∧ disk.isDirectoryAt place ∧
      disk.entries.filterMap (nameIn place) = names := by
  unfold list
  cases disk.place path with
  | error fault => simp
  | ok place =>
    simp only [Except.ok.injEq, exists_eq_left']
    split
    · next hdirectory => simp [hdirectory]; rfl
    · next hfile => simp [hfile]

theorem mem_names {name : String} : name ∈ disk.entries.filterMap (nameIn place) ↔
    (disk.entry? (place ++ [name.toList])).isSome := by
  rw [List.mem_filterMap]
  constructor
  · rintro ⟨⟨other, entry⟩, hother, hname⟩
    obtain rfl := nameIn_eq_some_iff.mp hname
    exact isSome_entry?_of_mem hother
  · intro h
    obtain ⟨entry, hentry⟩ := Option.isSome_iff_exists.mp h
    exact ⟨_, mem_entries_of_eq hentry (by simp), nameIn_eq_some_iff.mpr rfl⟩

theorem IsTree.nodup_names (htree : disk.IsTree) (place : Place) :
    (disk.entries.filterMap (nameIn place)).Nodup := by
  refine List.pairwise_filterMap.mpr ((List.pairwise_map.mp htree.apart).imp ?_)
  rintro first second hapart name hname other hother rfl
  exact hapart ((nameIn_eq_some_iff.mp hname).trans (nameIn_eq_some_iff.mp hother).symm)

end Disk

namespace Sources

open Disk

variable {system : System} {working : AbsolutePath} {directory : String} {names : List String}

/-- A list of the schema files of a directory is exact: for any excluded paths it has, in order, the
names in the directory that end in `.proto` and whose path differs from that of each excluded one;
and only what the excluded paths stand for counts. -/
structure ListsExactly (list : List String → Except Unreadable (List String))
    (inside : AbsolutePath) (isIn : String → Prop) : Prop where
  exact : ∀ excluded, ∃ files, list excluded = .ok files ∧ files.Pairwise (· < ·) ∧
    ∀ name, name ∈ files ↔ isIn name ∧ ".proto".toList <:+ name.toList ∧
      ∀ path ∈ excluded, (absolute inside path).text ≠ (inside.child name.toList).text
  sameExcluded : ∀ excluded others : List String,
    (∀ text, text ∈ others.map (fun path ↦ (absolute inside path).text) ↔
      text ∈ excluded.map (fun path ↦ (absolute inside path).text)) →
    list others = list excluded

theorem ListsExactly.congr {list : List String → Except Unreadable (List String)}
    {inside : AbsolutePath} {isIn isListed : String → Prop} (h : ListsExactly list inside isIn)
    (hiff : ∀ name, isIn name ↔ isListed name) : ListsExactly list inside isListed where
  exact excluded := by
    obtain ⟨files, hfiles, hsorted, hmem⟩ := h.exact excluded
    exact ⟨files, hfiles, hsorted, fun name ↦ (hmem name).trans (and_congr_left' (hiff name))⟩
  sameExcluded := h.sameExcluded

/-- A path that is taken in a directory stands for what it stands for inside the absolute one. -/
theorem located_eq (working : AbsolutePath) (directory path : String) :
    located working directory path = absolute (absolute working directory) path :=
  absolute_join ..

/-- A name in a directory is the path of the absolute directory with the name at its end. -/
theorem located_of_isName {name : String} (hname : IsName name.toList) (working : AbsolutePath)
    (directory : String) :
    located working directory name = (absolute working directory).child name.toList := by
  rw [located_eq, hname.absolute_eq_child]

theorem pairwise_lt_mergeSort (h : names.Nodup) :
    (names.mergeSort (· ≤ ·)).Pairwise (· < ·) := by
  have hle := pairwise_le_mergeSort names
  have hne : (names.mergeSort (· ≤ ·)).Pairwise (· ≠ ·) :=
    (List.mergeSort_perm names _).symm.nodup h
  refine (hle.and hne).imp fun ⟨hle, hne⟩ ↦ String.not_le.mp fun hge ↦ hne ?_
  exact String.le_antisymm hle hge

/-- A path is left out if it has the text of an excluded one.
Assumes: the absolute directory is normal. -/
theorem contains_located_iff (hinside : (absolute working directory).IsNormal)
    (excluded : List String) (path : String) :
    (excluded.map (located working directory)).contains (located working directory path) = true ↔
      (absolute (absolute working directory) path).text ∈
        excluded.map fun other ↦ (absolute (absolute working directory) other).text := by
  rw [List.contains_iff_mem, List.mem_map, List.mem_map]
  refine exists_congr fun other ↦ and_congr_right fun _ ↦ ?_
  rw [located_eq, located_eq]
  exact ⟨congrArg AbsolutePath.text,
    (hinside.absolute other).text_injective (hinside.absolute path)⟩

/-- Which of the listed names are kept. -/
theorem kept_iff (hinside : (absolute working directory).IsNormal) {isFile : String → Bool}
    {excluded : List String} {name : String} (hname : IsName name.toList) :
    (!(excluded.map (located working directory)).contains (located working directory name) &&
        isFile (located working directory name).text && isSchema name) = true ↔
      isFile ((absolute working directory).child name.toList).text = true ∧
      ".proto".toList <:+ name.toList ∧
      ∀ path ∈ excluded, (absolute (absolute working directory) path).text ≠
        ((absolute working directory).child name.toList).text := by
  have hleft := contains_located_iff hinside excluded name
  rw [hname.absolute_eq_child, List.mem_map] at hleft
  rw [Bool.and_eq_true, Bool.and_eq_true, isSchema, List.isSuffixOf_iff_suffix,
    Bool.not_eq_true', ← Bool.not_eq_true, hleft, located_of_isName hname]
  constructor
  · rintro ⟨⟨hkept, hfile⟩, hsuffix⟩
    exact ⟨hfile, hsuffix, fun path hpath htext ↦ hkept ⟨path, hpath, htext⟩⟩
  · rintro ⟨hfile, hsuffix, hkept⟩
    exact ⟨⟨fun ⟨path, hpath, htext⟩ ↦ hkept path hpath htext, hfile⟩, hsuffix⟩

/-! ### Any system -/

/-- What a system says holds together: the working directory is normal, and what stands in a
directory are names, each once. -/
structure System.Proper (system : System) : Prop where
  directory : system.directory.IsNormal
  named : ∀ path names, system.names path = .ok names → ∀ name ∈ names, IsName name.toList
  distinct : ∀ path names, system.names path = .ok names → names.Nodup

/-- Assumes: the absolute directory is normal, and its names are listed, each once. A name is in the
list if its path in the absolute directory leads to a file. -/
theorem System.listsExactly (hinside : (absolute system.directory directory).IsNormal)
    (hnames : system.names directory = .ok names) (hnamed : ∀ name ∈ names, IsName name.toList)
    (hdistinct : names.Nodup) :
    ListsExactly (system.list directory) (absolute system.directory directory) fun name ↦
      name ∈ names ∧
        system.isFile ((absolute system.directory directory).child name.toList).text = true := by
  have hfiles : ∀ excluded : List String, system.list directory excluded =
      .ok ((names.mergeSort (· ≤ ·)).filter fun name ↦
        !(excluded.map (located system.directory directory)).contains
            (located system.directory directory name) &&
          system.isFile (located system.directory directory name).text && isSchema name) := by
    intro excluded
    rw [list, hnames]
  refine ⟨fun excluded ↦ ⟨_, hfiles excluded, (pairwise_lt_mergeSort hdistinct).filter _,
    fun name ↦ ?_⟩, fun excluded others hsame ↦ ?_⟩
  · rw [List.mem_filter, List.mem_mergeSort, and_assoc]
    exact and_congr_right fun hname ↦ kept_iff hinside (hnamed name hname)
  · rw [hfiles others, hfiles excluded]
    refine congrArg Except.ok (List.filter_congr fun name _ ↦ ?_)
    have hcontains : (others.map (located system.directory directory)).contains
          (located system.directory directory name) =
        (excluded.map (located system.directory directory)).contains
          (located system.directory directory name) := by
      rw [Bool.eq_iff_iff, contains_located_iff hinside, contains_located_iff hinside]
      exact hsame _
    rw [hcontains]

end Sources

/-! ### Disks -/

namespace Disk

variable {disk : Disk} {directory : String} {place : Place} {name : String}

@[simp] theorem system_directory (disk : Disk) : disk.system.directory = disk.directory :=
  rfl

@[simp] theorem system_isFile (disk : Disk) : disk.system.isFile = disk.isFile :=
  rfl

theorem IsTree.isNormal_absolute (htree : disk.IsTree) (hplace : disk.place directory = .ok place)
    (hdirectory : disk.isDirectoryAt place) : (absolute disk.directory directory).IsNormal := by
  intro name hname
  rw [names_absolute hplace] at hname
  exact (htree.isEntryName_of_mem (by simp [of_decide_eq_true hdirectory]) name hname).toIsName

theorem utf8ByteSize_le_of_isFile {path : String} (h : disk.isFile path = true) :
    path.utf8ByteSize ≤ pathLimit := by
  have hchecked : checkPath path = .ok () := by
    unfold isFile find? at h
    cases hplace : disk.place path with
    | error fault =>
      rw [hplace] at h
      cases h
    | ok place => exact (place_eq_ok_iff.mp hplace).1
  unfold checkPath at hchecked
  split_ifs at hchecked with hnull hlong
  exact Nat.le_of_not_lt hlong

/-- The absolute path of an entry in a directory leads to it just if the path is not too long. -/
theorem IsTree.isFile_child_iff (htree : disk.IsTree) (hplace : disk.place directory = .ok place)
    (hname : (disk.entry? (place ++ [name.toList])).isSome) :
    disk.isFile ((absolute disk.directory directory).child name.toList).text = true ↔
      (∃ content, disk.entry? (place ++ [name.toList]) = some (.file content)) ∧
        ((absolute disk.directory directory).child name.toList).text.utf8ByteSize ≤
          pathLimit := by
  generalize hpath : (absolute disk.directory directory).child name.toList = path
  have hnames : path.names = place ++ [name.toList] := by
    rw [← hpath, AbsolutePath.child, names_absolute hplace]
  by_cases hshort : path.text.utf8ByteSize ≤ pathLimit
  · have hleads := htree.place_text (by rwa [hnames]) hshort
    rw [hnames] at hleads
    rw [and_iff_left hshort]
    unfold isFile find?
    rw [hleads]
    split
    · next content hentry => exact iff_of_true rfl ⟨content, hentry⟩
    · next hother =>
      refine iff_of_false Bool.false_ne_true ?_
      rintro ⟨content, hentry⟩
      exact hother content hentry
  · refine iff_of_false (fun hfile ↦ hshort ?_) fun h ↦ hshort h.2
    exact utf8ByteSize_le_of_isFile hfile

end Disk

/-- If the absolute paths of all names in a directory are too long, no schema file is found. -/
theorem Sources.list_eq_nil {disk : Disk} {directory : String} {names : List String}
    (hnames : disk.list directory = .ok names)
    (hlong : ∀ name ∈ names,
      Disk.pathLimit < (located disk.directory directory name).text.utf8ByteSize)
    (excluded : List String) : list disk directory excluded = .ok [] := by
  have hsystem : disk.system.names directory = .ok names := hnames
  rw [list, System.list, hsystem]
  refine congrArg Except.ok (List.filter_eq_nil_iff.mpr fun name hname hkept ↦ ?_)
  rw [Disk.system_isFile, Disk.system_directory, Bool.and_eq_true, Bool.and_eq_true] at hkept
  have hshort := Disk.utf8ByteSize_le_of_isFile hkept.1.2
  exact absurd (hlong name (List.mem_mergeSort.mp hname)) (Nat.not_lt.mpr hshort)

/-- The list of a directory is exact, in whatever way the directory and the excluded paths are
spelled. In any system it has the names in the directory whose paths in the absolute directory lead
to files. On a disk, where nothing is linked and every directory may be searched, these are the
files in the directory whose absolute paths are not too long.
Assumes: the answers of the system hold together, or the disk is a tree; and the directory can be
listed. -/
theorem Sources.list_exact :
    (∀ (system : System) (directory : String) (names : List String), system.Proper →
      system.names directory = .ok names →
      let inside := absolute system.directory directory
      ListsExactly (system.list directory) inside fun name ↦
        name ∈ names ∧ system.isFile (inside.child name.toList).text = true) ∧
    ∀ (disk : Disk) (directory : String) (names : List String), disk.IsTree →
      disk.list directory = .ok names →
      let inside := absolute disk.directory directory
      ∃ place, disk.place directory = .ok place ∧
        ListsExactly (list disk directory) inside fun name ↦
          (∃ content, disk.entry? (place ++ [name.toList]) = some (.file content)) ∧
            (inside.child name.toList).text.utf8ByteSize ≤ Disk.pathLimit := by
  refine ⟨fun system directory names hproper hnames ↦ ?_,
    fun disk directory names htree hlist ↦ ?_⟩
  · exact System.listsExactly (hproper.directory.absolute directory) hnames
      (hproper.named _ _ hnames) (hproper.distinct _ _ hnames)
  · obtain ⟨place, hplace, hdirectory, rfl⟩ := Disk.list_eq_ok_iff.mp hlist
    have hentry (name : String) (hname : name ∈ disk.entries.filterMap (Disk.nameIn place)) :
        (disk.entry? (place ++ [name.toList])).isSome := Disk.mem_names.mp hname
    have hnames : disk.system.names directory =
        .ok (disk.entries.filterMap (Disk.nameIn place)) := hlist
    have hexact := System.listsExactly (htree.isNormal_absolute hplace hdirectory) hnames
      (fun name hname ↦ (htree.of_isSome (hentry name hname)).1.toIsName) (htree.nodup_names place)
    refine ⟨place, hplace, hexact.congr fun name ↦ ?_⟩
    rw [Disk.mem_names, Disk.system_isFile, Disk.system_directory]
    constructor
    · rintro ⟨hsome, hfile⟩
      exact (htree.isFile_child_iff hplace hsome).mp hfile
    · rintro ⟨⟨content, hcontent⟩, hshort⟩
      have hsome : (disk.entry? (place ++ [name.toList])).isSome := by
        rw [hcontent]
        rfl
      exact ⟨hsome, (htree.isFile_child_iff hplace hsome).mpr ⟨⟨content, hcontent⟩, hshort⟩⟩

namespace Registry

/-- The place of the schemas. -/
def shelf : Place := ["home".toList, "registry".toList, "schemas".toList]

def disk : Disk where
  directory := ⟨false, ["home".toList, "registry".toList]⟩
  entries := [
    (["home".toList], .directory),
    (["home".toList, "registry".toList], .directory),
    (shelf, .directory),
    (shelf ++ ["deeds.proto".toList], .file (.text "")),
    (shelf ++ ["births.proto".toList], .file (.text "")),
    (shelf ++ ["archive.proto".toList], .directory),
    (shelf ++ ["readme.txt".toList], .file (.text ""))]

/-- A system in which `latest` is a link to a directory in `editions`, so that `latest/..` is
`editions`, and stands for something else by its text. -/
def linked : Sources.System where
  directory := disk.directory
  names path := if path = "latest/.." then .ok ["deeds.proto"] else .error ⟨.missing, path⟩
  isFile path := path = "latest/../deeds.proto" || path = "/home/registry/editions/deeds.proto"

theorem names_linked {path : String} {names : List String} (h : linked.names path = .ok names) :
    names = ["deeds.proto"] := by
  change (if path = "latest/.." then _ else _) = _ at h
  split_ifs at h
  cases h
  rfl

theorem proper_linked : linked.Proper where
  directory := by decide
  named path names h := by
    rw [names_linked h]
    decide
  distinct path names h := by
    rw [names_linked h]
    decide

theorem list_schemas :
    disk.list "schemas//" = .ok ["deeds.proto", "births.proto", "archive.proto", "readme.txt"] := by
  rfl

/-- A file is excluded by a path that goes out of the directory and back, and a file behind a link
is not found by the text of its path. -/
theorem schemas_listed : disk.IsTree ∧
    (∃ files, Sources.list disk "schemas//" [".././schemas/deeds.proto"] = .ok files ∧
      files.Pairwise (· < ·) ∧ "births.proto" ∈ files ∧ "deeds.proto" ∉ files ∧
      Sources.list disk "schemas//" ["deeds.proto/", "deeds.proto"] = .ok files) ∧
    linked.Proper ∧ linked.names "latest/.." = .ok ["deeds.proto"] ∧
    linked.isFile (Path.join "latest/.." "deeds.proto") = true ∧
    ∃ files, linked.list "latest/.." [] = .ok files ∧ "deeds.proto" ∉ files := by
  have htree : disk.IsTree := by decide +kernel
  obtain ⟨place, hplace, hexact⟩ := Sources.list_exact.2 disk "schemas//" _ htree list_schemas
  have hshelf : disk.place "schemas//" = .ok shelf := rfl
  obtain rfl : shelf = place := Except.ok.inj (hshelf.symm.trans hplace)
  obtain ⟨files, hlist, hsorted, hmem⟩ := hexact.exact [".././schemas/deeds.proto"]
  have hnames : linked.names "latest/.." = .ok ["deeds.proto"] := rfl
  have hlinked := Sources.list_exact.1 linked "latest/.." _ proper_linked hnames
  obtain ⟨found, hfound, -, hfoundMem⟩ := hlinked.exact []
  refine ⟨htree, ⟨files, hlist, hsorted, ?_, ?_, ?_⟩, proper_linked, hnames, by decide +kernel,
    found, hfound, ?_⟩
  · exact (hmem _).mpr ⟨⟨⟨.text "", by decide +kernel⟩, by decide +kernel⟩, by decide +kernel,
      by decide +kernel⟩
  · exact fun hdeeds ↦ absurd ((hmem _).mp hdeeds).2.2 (by decide +kernel)
  · -- Both lists exclude one path.
    have hone : ["deeds.proto/", "deeds.proto"].map (fun path ↦
        (absolute (absolute disk.directory "schemas//") path).text) =
        List.replicate 2 "/home/registry/schemas/deeds.proto" := by decide +kernel
    have hother : [".././schemas/deeds.proto"].map (fun path ↦
        (absolute (absolute disk.directory "schemas//") path).text) =
        ["/home/registry/schemas/deeds.proto"] := by decide +kernel
    rw [← hlist]
    refine hexact.sameExcluded _ _ fun text ↦ ?_
    rw [hone, hother]
    simp
  · exact fun hdeeds ↦ absurd ((hfoundMem _).mp hdeeds).1.2 (by decide +kernel)

end Registry

namespace Depths

/-- A long name. -/
def name : List Char := List.replicate 226 'd'

/-- The place so many long names below the working directory. -/
def shelf (n : Nat) : Place := "home".toList :: List.replicate n name

/-- A disk with a schema file behind eighteen long names. -/
def disk : Disk where
  directory := ⟨false, shelf 0⟩
  entries := (List.range 19).map (fun n ↦ (shelf n, .directory)) ++
    [(shelf 18 ++ ["a.proto".toList], .file (.text ""))]

/-- The directory with the schema file, as an absolute path. -/
def path : AbsolutePath := ⟨false, shelf 18⟩

theorem isTree : disk.IsTree := by decide +kernel

theorem size_path : path.text.utf8ByteSize = 4091 := by
  have hsize := AbsolutePath.utf8ByteSize_text (List.cons_ne_nil "home".toList (shelf 18).tail)
  have hsum : ((shelf 18).map fun name ↦ (String.ofList name).utf8ByteSize + 1).sum = 4091 := by
    decide +kernel
  exact hsize.trans hsum

theorem size_child : (path.child "a.proto".toList).text.utf8ByteSize = 4099 := by
  have hsize := AbsolutePath.utf8ByteSize_text
    (List.append_ne_nil_of_right_ne_nil (shelf 18) (List.cons_ne_nil "a.proto".toList []))
  have hsum : ((shelf 18 ++ ["a.proto".toList]).map fun name ↦
      (String.ofList name).utf8ByteSize + 1).sum = 4099 := by
    decide +kernel
  exact hsize.trans hsum

theorem place_path : disk.place path.text = .ok (shelf 18) := by
  have hentry : (disk.entry? path.names).isSome := by decide +kernel
  have hshort : path.text.utf8ByteSize ≤ Disk.pathLimit := by
    rw [size_path]
    decide
  exact isTree.place_text hentry hshort

theorem list_path : disk.list path.text = .ok ["a.proto"] := by
  have hdirectory : disk.isDirectoryAt (shelf 18) := by decide +kernel
  have hnames : disk.entries.filterMap (Disk.nameIn (shelf 18)) = ["a.proto"] := by decide +kernel
  exact Disk.list_eq_ok_iff.mpr ⟨shelf 18, place_path, hdirectory, hnames⟩

theorem located_eq : Sources.located disk.directory path.text "a.proto" =
    path.child "a.proto".toList := by
  have hnormal : path.IsNormal := by decide +kernel
  have hname : IsName "a.proto".toList := by decide
  rw [Sources.located_of_isName hname, hnormal.absolute_text]

/-- The directory can be listed, and its path is not too long, but that of the file in it is. So the
file is not found, and the list is not that of the files in the directory. -/
theorem deep_unlisted : disk.IsTree ∧ disk.list path.text = .ok ["a.proto"] ∧
    disk.place path.text = .ok (shelf 18) ∧ Sources.list disk path.text [] = .ok [] ∧
    ¬Sources.ListsExactly (Sources.list disk path.text) (absolute disk.directory path.text)
      fun name ↦ ∃ content, disk.entry? (shelf 18 ++ [name.toList]) = some (.file content) := by
  have hentry : disk.entry? (shelf 18 ++ ["a.proto".toList]) = some (.file (.text "")) := by
    decide +kernel
  have hnone : Sources.list disk path.text [] = .ok [] := by
    refine Sources.list_eq_nil list_path (fun name hname ↦ ?_) []
    rw [List.mem_singleton.mp hname, located_eq, size_child]
    decide
  refine ⟨isTree, list_path, place_path, hnone, fun hexact ↦ ?_⟩
  obtain ⟨files, hfiles, -, hmem⟩ := hexact.exact []
  obtain rfl : [] = files := Except.ok.inj (hnone.symm.trans hfiles)
  have hsuffix : ".proto".toList <:+ "a.proto".toList := by decide
  exact absurd ((hmem "a.proto").mpr ⟨⟨.text "", hentry⟩, hsuffix, nofun⟩) List.not_mem_nil

end Depths

end ClientGen
