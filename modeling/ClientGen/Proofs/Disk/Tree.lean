import ClientGen.Proofs.Disk
import ClientGen.Proofs.Path.Absolute

/-!
# Trees of files

The entries of a disk form a tree (`IsTree`): each has a place of its own, under a name in a
directory. Every step keeps this (`IsTree.of_write`, `IsTree.ensureDirectory`). What a path leads
to, name by name, is what it stands for by its text (`names_absolute`), and in a tree the absolute
path of an entry leads to it (`IsTree.place_text`).
-/

set_option autoImplicit false
set_option relaxedAutoImplicit false

namespace ClientGen.Disk

open ClientGen.Path ClientGen.Text

/-- A name that an entry can have: it is one for a path, has no null character and is not too
long. -/
structure IsEntryName (name : List Char) : Prop extends IsName name where
  noNull : '\x00' ∉ name
  fits : isTooLong name = false

instance : DecidablePred IsEntryName := fun name ↦
  decidable_of_iff (IsName name ∧ '\x00' ∉ name ∧ isTooLong name = false)
    ⟨fun ⟨h, hnull, hfits⟩ ↦ ⟨h, hnull, hfits⟩, fun h ↦ ⟨h.toIsName, h.noNull, h.fits⟩⟩

/-- The entries of a disk form a tree: no two have the same place, and each stands under a name in a
directory. -/
structure IsTree (disk : Disk) : Prop where
  apart : (disk.entries.map Prod.fst).Nodup
  named : ∀ other ∈ disk.entries, ∃ name ∈ other.1.getLast?,
    IsEntryName name ∧ disk.isDirectoryAt other.1.dropLast

instance : DecidablePred IsTree := fun disk ↦
  decidable_of_iff ((disk.entries.map Prod.fst).Nodup ∧ ∀ other ∈ disk.entries,
      ∃ name ∈ other.1.getLast?, IsEntryName name ∧ disk.isDirectoryAt other.1.dropLast)
    ⟨fun ⟨hapart, hnamed⟩ ↦ ⟨hapart, hnamed⟩, fun h ↦ ⟨h.apart, h.named⟩⟩

variable {disk later : Disk} {path : String} {place outer : Place} {name : List Char}
  {entry : Entry}

/-! ### Entries -/

theorem IsTree.exists_of_mem (htree : disk.IsTree) {other : Place × Entry}
    (hother : other ∈ disk.entries) :
    ∃ outer name, other.1 = outer ++ [name] ∧ IsEntryName name ∧ disk.isDirectoryAt outer := by
  obtain ⟨name, hlast, hname, hdirectory⟩ := htree.named other hother
  obtain ⟨outer, houter⟩ := List.getLast?_eq_some_iff.mp hlast
  rw [houter, List.dropLast_concat] at hdirectory
  exact ⟨outer, name, houter, hname, hdirectory⟩

theorem mem_entries_of_eq (h : disk.entry? place = some entry) (hplace : place ≠ []) :
    (place, entry) ∈ disk.entries := by
  unfold entry? at h
  rw [if_neg hplace] at h
  obtain ⟨before, after, hentries, -⟩ := List.lookup_eq_some_iff.mp h
  rw [hentries]
  exact List.mem_append_right _ List.mem_cons_self

theorem isSome_entry?_of_mem (h : (place, entry) ∈ disk.entries) :
    (disk.entry? place).isSome := by
  unfold entry?
  split
  · rfl
  · refine Option.isSome_iff_ne_none.mpr fun hnone ↦ ?_
    exact absurd (List.lookup_eq_none_iff.mp hnone _ h) (by simp)

/-- An entry other than the root stands under a name in a directory. -/
theorem IsTree.of_isSome (htree : disk.IsTree) (h : (disk.entry? (outer ++ [name])).isSome) :
    IsEntryName name ∧ disk.isDirectoryAt outer := by
  obtain ⟨entry, hentry⟩ := Option.isSome_iff_exists.mp h
  obtain ⟨outer', name', hplace, hname, hdirectory⟩ :=
    htree.exists_of_mem (mem_entries_of_eq hentry (by simp))
  obtain ⟨rfl, hsame⟩ := List.append_inj' hplace rfl
  obtain rfl := List.singleton_inj.mp hsame
  exact ⟨hname, hdirectory⟩

/-- All names on the way to an entry are names. -/
theorem IsTree.isEntryName_of_mem (htree : disk.IsTree) (h : (disk.entry? place).isSome) :
    ∀ name ∈ place, IsEntryName name := by
  induction place using List.reverseRecOn with
  | nil => exact fun _ hname ↦ absurd hname List.not_mem_nil
  | append_singleton outer last ih =>
    obtain ⟨hlast, hdirectory⟩ := htree.of_isSome h
    intro name hname
    rcases List.mem_append.mp hname with hname | hname
    · exact ih (by simp [of_decide_eq_true hdirectory]) name hname
    · exact List.mem_singleton.mp hname ▸ hlast

/-! ### Places and texts -/

theorem eq_descend_of_follow {part : List Char} {next : Place}
    (h : disk.follow place part = .ok next) : next = descend place part := by
  have hnext := (follow_eq_ok_iff.mp h).2
  unfold descend
  simp only [Bool.or_eq_true, decide_eq_true_eq]
  split_ifs at hnext ⊢ with hsame hup
  · exact hnext
  · exact hnext
  · exact hnext.2.2

theorem eq_foldl_descend_of_foldlM_follow {parts : List (List Char)} {next : Place}
    (h : parts.foldlM disk.follow place = .ok next) : next = parts.foldl descend place := by
  induction parts generalizing place with
  | nil =>
    cases h
    rfl
  | cons part rest ih =>
    obtain ⟨inner, hfollow, hrest⟩ := exists_of_bind_eq_ok (by rwa [List.foldlM_cons] at h)
    rw [ih hrest, eq_descend_of_follow hfollow, List.foldl_cons]

/-- What a path leads to is what it stands for. -/
theorem names_absolute (h : disk.place path = .ok place) :
    (absolute disk.directory path).names = place := by
  obtain ⟨-, -, hparts⟩ := place_eq_ok_iff.mp h
  rw [eq_foldl_descend_of_foldlM_follow hparts, absolute, start]
  split_ifs <;> rfl

theorem checkPath_text {absolute : AbsolutePath}
    (hnames : ∀ name ∈ absolute.names, '\x00' ∉ name)
    (hshort : absolute.text.utf8ByteSize ≤ pathLimit) : checkPath absolute.text = .ok () := by
  have hnull : '\x00' ∉ absolute.text.toList := by
    rw [AbsolutePath.toList_text]
    intro hmem
    rcases List.mem_append.mp hmem with hmem | hmem
    · cases hdoubled : absolute.doubled <;> simp [hdoubled] at hmem
    · rcases mem_joinWith hmem with hslash | ⟨name, hname, hnull⟩
      · exact absurd hslash (by decide)
      · exact hnames name hname hnull
  rw [checkPath, if_neg (by simpa using hnull), if_neg (by omega)]

/-- The names on the way to an entry can be followed from the root. -/
theorem IsTree.foldlM_follow (htree : disk.IsTree) (h : (disk.entry? place).isSome) :
    place.foldlM disk.follow [] = .ok place := by
  induction place using List.reverseRecOn with
  | nil => rfl
  | append_singleton outer name ih =>
    obtain ⟨hname, hdirectory⟩ := htree.of_isSome h
    refine foldlM_concat_eq_ok (ih (by simp [of_decide_eq_true hdirectory])) ?_
    rw [follow_eq_ok_iff, if_neg (by simp [hname.ne_nil, hname.ne_dot]), if_neg hname.ne_dots]
    exact ⟨hdirectory, hname.fits, h, rfl⟩

theorem foldlM_follow_of_empty {parts : List (List Char)} (hdirectory : disk.isDirectoryAt place)
    (hempty : ∀ part ∈ parts, part = []) : parts.foldlM disk.follow place = .ok place := by
  induction parts with
  | nil => rfl
  | cons part rest ih =>
    have hfollow : disk.follow place part = .ok place := by
      rw [follow_eq_ok_iff, if_pos (.inl (hempty part List.mem_cons_self))]
      exact ⟨hdirectory, rfl⟩
    rw [List.foldlM_cons, hfollow]
    exact ih fun other hother ↦ hempty other (List.mem_cons_of_mem _ hother)

/-- The absolute path of an entry leads to it, unless it is too long. -/
theorem IsTree.place_text (htree : disk.IsTree) {absolute : AbsolutePath}
    (h : (disk.entry? absolute.names).isSome)
    (hshort : absolute.text.utf8ByteSize ≤ pathLimit) :
    disk.place absolute.text = .ok absolute.names := by
  have hnames := htree.isEntryName_of_mem h
  have hnormal : absolute.IsNormal := fun name hname ↦ (hnames name hname).toIsName
  obtain ⟨empty, hempty, hparts⟩ := hnormal.parts_text
  have habsolute := AbsolutePath.isAbsolute_text absolute
  refine place_eq_ok_iff.mpr ⟨checkPath_text (fun name hname ↦ (hnames name hname).noNull) hshort,
    ?_, ?_⟩
  · rintro hnone
    rw [hnone] at habsolute
    exact Bool.false_ne_true habsolute
  · rw [start, if_pos habsolute, hparts, List.foldlM_append,
      foldlM_follow_of_empty (by simp [isDirectoryAt, entry?]) hempty]
    exact htree.foldlM_follow h

/-! ### Steps -/

/-- Assumes: no directory is at the new place. -/
theorem IsTree.put (htree : disk.IsTree) (entry : Entry) (hname : IsEntryName name)
    (hdirectory : disk.isDirectoryAt outer) (hfree : disk.isDirectoryAt (outer ++ [name]) = false) :
    (disk.put (outer ++ [name]) entry).IsTree := by
  have hextends : Extends disk (disk.put (outer ++ [name]) entry) := .put hfree
  refine ⟨?_, fun other hother ↦ ?_⟩
  · refine List.nodup_cons.mpr ⟨fun hmem ↦ ?_, htree.apart.sublist (List.filter_sublist.map _)⟩
    obtain ⟨other, hother, hsame⟩ := List.mem_map.mp hmem
    exact of_decide_eq_true (List.mem_filter.mp hother).2 hsame
  · rcases List.mem_cons.mp hother with rfl | hother
    · exact ⟨name, by simp, hname, by simpa using hextends.directories outer hdirectory⟩
    · obtain ⟨last, hlast, hlastName, hinner⟩ := htree.named other (List.mem_of_mem_filter hother)
      exact ⟨last, hlast, hlastName, hextends.directories _ hinner⟩

/-- The last name of a path that leads to a new place is one that an entry can have. -/
theorem isEntryName_of_newPlace {parts : List (List Char)}
    (hlast : lastName? path = some (parts, name))
    (h : disk.newPlace path parts name = .ok place) :
    ∃ outer, place = outer ++ [name] ∧ IsEntryName name ∧ disk.isDirectoryAt outer := by
  obtain ⟨outer, hcheck, -, hdirectory, hfits, rfl⟩ := newPlace_eq_ok h
  refine ⟨outer, rfl, ?_, hdirectory⟩
  have hnull : '\x00' ∉ path.toList := by
    intro hnull
    rw [checkPath, if_pos (by simpa using hnull)] at hcheck
    cases hcheck
  unfold lastName? at hlast
  split at hlast
  · next last rest hrest =>
    split_ifs at hlast with hdots
    cases hlast
    have hmem : name ∈ Path.parts path := by
      have hmem : name ∈ (Path.parts path).reverse.dropWhile (· = []) := by
        rw [hrest]
        exact List.mem_cons_self
      exact List.mem_reverse.mp ((List.dropWhile_sublist _).subset hmem)
    have hempty : name ≠ [] := by
      have hhead := List.head?_dropWhile_not (· = []) (Path.parts path).reverse
      rw [hrest] at hhead
      exact of_decide_eq_false hhead
    simp only [Bool.or_eq_true, decide_eq_true_eq, not_or] at hdots
    exact { ne_nil := hempty, ne_dot := hdots.1, ne_dots := hdots.2,
            noSlash := notMem_of_mem_splitOn hmem,
            noNull := fun hc ↦ hnull (mem_of_mem_splitOn hmem hc), fits := hfits }
  · cases hlast

/-- A step put an entry at a new place, under the last name of a path. -/
theorem IsTree.put_newPlace (htree : disk.IsTree) (entry : Entry) {parts : List (List Char)}
    (hlast : lastName? path = some (parts, name))
    (h : disk.newPlace path parts name = .ok place) (hfree : disk.isDirectoryAt place = false) :
    (disk.put place entry).IsTree := by
  obtain ⟨outer, rfl, hname, hdirectory⟩ := isEntryName_of_newPlace hlast h
  exact htree.put entry hname hdirectory hfree

theorem IsTree.of_write (htree : disk.IsTree) {text : String}
    (h : disk.write path text = .ok later) : later.IsTree := by
  have hwritten := eq_ok_of_mapError_eq_ok h
  cases hlast : lastName? path with
  | none =>
    rw [hlast] at hwritten
    obtain ⟨_, -, hthrow⟩ := exists_of_bind_eq_ok hwritten
    cases hthrow
  | some last =>
    rw [hlast] at hwritten
    obtain ⟨place, hplace, hput⟩ := exists_of_bind_eq_ok hwritten
    split at hput
    · cases hput
    · next hrefused =>
      cases hput
      have hfree := (Bool.or_eq_false_iff.mp (eq_false_of_ne_true hrefused)).1
      exact htree.put_newPlace _ hlast hplace hfree

theorem IsTree.of_makeDirectory (htree : disk.IsTree)
    (h : disk.makeDirectory path = .ok later) : later.IsTree := by
  have hmade := eq_ok_of_mapError_eq_ok h
  cases hlast : lastName? path with
  | none =>
    rw [hlast] at hmade
    obtain ⟨_, -, hthrow⟩ := exists_of_bind_eq_ok hmade
    cases hthrow
  | some last =>
    rw [hlast] at hmade
    obtain ⟨place, hplace, hput⟩ := exists_of_bind_eq_ok hmade
    split at hput
    · cases hput
    · next hnone =>
      cases hput
      have hfree : disk.entry? place = none := by simpa using hnone
      exact htree.put_newPlace _ hlast hplace (by simp [isDirectoryAt, hfree])

theorem IsTree.finish (htree : disk.IsTree) (path tail : String) (isInNew : Bool) :
    (Disk.finish path tail isInNew disk).2.IsTree := by
  unfold Disk.finish
  split
  · exact htree
  · split
    · next hmade => exact htree.of_makeDirectory hmade
    · split <;> exact htree

theorem IsTree.makeDirectories (htree : disk.IsTree) (fuel : Nat) (path : String) :
    (Disk.makeDirectories fuel path disk).2.IsTree := by
  induction fuel generalizing path disk with
  | zero => exact htree
  | succ fuel ih =>
    rw [Disk.makeDirectories]
    split
    next head tail _ =>
    split
    · have hmade : (Disk.makeDirectories fuel head disk).2.IsTree := ih htree head
      split
      · next houter =>
        rw [houter] at hmade
        split
        · exact hmade.finish path tail true
        · exact hmade
      · next houter =>
        rw [houter] at hmade
        exact hmade.finish path tail true
    · exact htree.finish path tail false

theorem IsTree.ensureDirectory (htree : disk.IsTree) (path : String) :
    (disk.ensureDirectory path).2.IsTree :=
  htree.makeDirectories _ path

end ClientGen.Disk
