import ClientGen.Proofs.Path
import ClientGen.Proofs.Results

/-!
# Reading what was written

Writing a text puts a file where its path leads, and changes nothing else (`exists_of_write`). The
directories and names of a disk stay (`Extends`), so that a path goes on leading where it led, while
more texts are written. When all are written, a path therefore leads to the text that was written
last to its place (`keepsLast_of_writeAll`).
-/

set_option autoImplicit false
set_option relaxedAutoImplicit false

namespace ClientGen.Disk

open ClientGen.Path

variable {disk middle later : Disk} {path text : String} {place other : Place} {entry : Entry}

/-! ### Putting an entry -/

theorem entry?_put_self (h : place ≠ []) :
    Disk.entry? (disk.put place entry) place = some entry := by
  simp [put, entry?, h]

/-- Leaving out the entries at one place changes nothing at another. -/
theorem lookup_filter_of_ne (entries : List (Place × Entry)) (h : other ≠ place) :
    (entries.filter fun (kept, _) ↦ kept ≠ place).lookup other = entries.lookup other := by
  induction entries with
  | nil => rfl
  | cons first rest ih =>
    obtain ⟨kept, content⟩ := first
    by_cases hkept : kept = place
    · have hkey : (other == kept) = false := by simpa [hkept] using h
      rw [List.filter_cons_of_neg (by simpa using hkept), List.lookup_cons, hkey, ih]
    · rw [List.filter_cons_of_pos (by simpa using hkept), List.lookup_cons, List.lookup_cons, ih]

theorem entry?_put_of_ne (h : other ≠ place) :
    Disk.entry? (disk.put place entry) other = disk.entry? other := by
  have hkey : (other == place) = false := by simpa using h
  simp only [put, entry?, List.lookup_cons, hkey, lookup_filter_of_ne _ h]

/-! ### Following a path -/

/-- What a part of a path can lead to, from a directory: the directory itself, the one around it, or
an entry in it. -/
theorem follow_eq_ok_iff {part : List Char} {next : Place} :
    disk.follow place part = .ok next ↔ disk.isDirectoryAt place ∧
      if part = [] ∨ part = ['.'] then next = place
      else if part = ['.', '.'] then next = place.dropLast
      else isTooLong part = false ∧ (disk.entry? (place ++ [part])).isSome ∧
        next = place ++ [part] := by
  unfold follow
  cases hdirectory : disk.isDirectoryAt place with
  | false => simp
  | true =>
    simp only [Bool.not_true, Bool.false_eq_true, if_false, true_and, Bool.or_eq_true,
      decide_eq_true_eq]
    split_ifs with hsame hup hlong hsome
    · rw [Except.ok.injEq, eq_comm]
    · rw [Except.ok.injEq, eq_comm]
    · simp [hlong]
    · simp [hlong, hsome, eq_comm]
    · simp [hsome]

theorem place_eq_ok_iff : disk.place path = .ok place ↔ checkPath path = .ok () ∧ path ≠ "" ∧
    (parts path).foldlM disk.follow (disk.start path) = .ok place := by
  unfold Disk.place
  constructor
  · intro h
    obtain ⟨⟨⟩, hcheck, hrest⟩ := exists_of_bind_eq_ok h
    by_cases hempty : path = ""
    · rw [if_pos hempty] at hrest
      cases hrest
    · rw [if_neg hempty] at hrest
      exact ⟨hcheck, hempty, hrest⟩
  · rintro ⟨hcheck, hnonempty, hparts⟩
    rw [hcheck, if_neg hnonempty]
    exact hparts

/-! ### Disks that grow -/

/-- A later disk has the directories and the names of an earlier one. -/
structure Extends (disk later : Disk) : Prop where
  directory : later.directory = disk.directory
  directories : ∀ place, disk.isDirectoryAt place → later.isDirectoryAt place
  names : ∀ place, (disk.entry? place).isSome → (later.entry? place).isSome

namespace Extends

theorem refl (disk : Disk) : Extends disk disk :=
  ⟨rfl, fun _ ↦ id, fun _ ↦ id⟩

theorem trans (h : Extends disk middle) (hmore : Extends middle later) : Extends disk later where
  directory := hmore.directory.trans h.directory
  directories place hplace := hmore.directories place (h.directories place hplace)
  names place hplace := hmore.names place (h.names place hplace)

/-- Assumes: no directory is at the place. -/
theorem put (h : disk.isDirectoryAt place = false) : Extends disk (disk.put place entry) where
  directory := rfl
  directories other hother := by
    have hne : other ≠ place := by
      rintro rfl
      rw [h] at hother
      cases hother
    rwa [isDirectoryAt, entry?_put_of_ne hne]
  names other hother := by
    by_cases hne : other = place
    · subst hne
      have hnonempty : other ≠ [] := by
        rintro rfl
        simp [isDirectoryAt, entry?] at h
      simp [entry?_put_self hnonempty]
    · rwa [entry?_put_of_ne hne]

theorem start_eq (h : Extends disk later) (path : String) : later.start path = disk.start path := by
  rw [start, start, h.directory]

/-- A part of a path leads where it led. -/
theorem follow_eq (h : Extends disk later) {part : List Char} {next : Place}
    (hfollow : disk.follow place part = .ok next) : later.follow place part = .ok next := by
  rw [follow_eq_ok_iff] at hfollow ⊢
  refine ⟨h.directories place hfollow.1, ?_⟩
  have hnext := hfollow.2
  split_ifs at hnext ⊢ with hsame hup
  · exact hnext
  · exact hnext
  · exact ⟨hnext.1, h.names _ hnext.2.1, hnext.2.2⟩

theorem foldlM_follow_eq (h : Extends disk later) {parts : List (List Char)} {next : Place}
    (hparts : parts.foldlM disk.follow place = .ok next) :
    parts.foldlM later.follow place = .ok next := by
  induction parts generalizing place with
  | nil => exact hparts
  | cons part rest ih =>
    rw [List.foldlM_cons] at hparts ⊢
    obtain ⟨inner, hfollow, hrest⟩ := exists_of_bind_eq_ok hparts
    rw [h.follow_eq hfollow]
    exact ih hrest

theorem place_eq (h : Extends disk later) (hplace : disk.place path = .ok place) :
    later.place path = .ok place := by
  rw [place_eq_ok_iff] at hplace ⊢
  rw [h.start_eq]
  exact ⟨hplace.1, hplace.2.1, h.foldlM_follow_eq hplace.2.2⟩

end Extends

/-! ### Writing -/

/-- The last name of a path that ends in one. -/
theorem lastName?_eq_some {outer : List (List Char)} {name : List Char}
    (h : lastName? path = some (outer, name)) (hslash : path.toList.getLast? ≠ some '/') :
    parts path = outer ++ [name] ∧ EndsIn path.toList name ∧
      name ≠ [] ∧ name ≠ ['.'] ∧ name ≠ ['.', '.'] := by
  obtain ⟨last, hends⟩ := exists_endsIn path.toList
  obtain ⟨front, hparts⟩ := exists_parts_of_endsIn hends
  have hnonempty : last ≠ [] := by
    rintro rfl
    obtain ⟨-, hempty | ⟨before, hbefore⟩⟩ := hends
    · simp [lastName?, parts, hempty, Text.splitOn] at h
    · exact hslash (by rw [hbefore, List.getLast?_concat])
  have hname : lastName? path =
      if last = ['.'] || last = ['.', '.'] then none else some (front, last) := by
    simp [lastName?, hparts, hnonempty]
  rw [hname] at h
  split_ifs at h with hdots
  cases h
  simp only [Bool.or_eq_true, decide_eq_true_eq, not_or] at hdots
  exact ⟨hparts, hends, hnonempty, hdots⟩

theorem newPlace_eq_ok {outer : List (List Char)} {name : List Char}
    (h : disk.newPlace path outer name = .ok place) :
    ∃ inner, checkPath path = .ok () ∧ outer.foldlM disk.follow (disk.start path) = .ok inner ∧
      disk.isDirectoryAt inner ∧ isTooLong name = false ∧ place = inner ++ [name] := by
  unfold newPlace at h
  obtain ⟨⟨⟩, hcheck, h⟩ := exists_of_bind_eq_ok h
  obtain ⟨inner, hinner, h⟩ := exists_of_bind_eq_ok h
  cases hdirectory : disk.isDirectoryAt inner with
  | false =>
    rw [hdirectory] at h
    cases h
  | true =>
    rw [hdirectory] at h
    cases hlong : isTooLong name with
    | true =>
      rw [hlong] at h
      cases h
    | false =>
      rw [hlong] at h
      cases h
      exact ⟨inner, hcheck, hinner, hdirectory, rfl, rfl⟩

/-- Assumes: no directory is at the new place of a path that ends in a name. The path leads to what
is put there. -/
theorem place_put (entry : Entry) {outer : List (List Char)} {name : List Char}
    (h : disk.newPlace path outer name = .ok place) (hfree : disk.isDirectoryAt place = false)
    (hparts : parts path = outer ++ [name]) (hempty : name ≠ []) (hdot : name ≠ ['.'])
    (hdots : name ≠ ['.', '.']) : (disk.put place entry).place path = .ok place := by
  obtain ⟨inner, hcheck, hinner, hdirectory, hshort, rfl⟩ := newPlace_eq_ok h
  have hextends : Extends disk (disk.put (inner ++ [name]) entry) := .put hfree
  -- The last name leads on, since there is an entry for it now.
  have hfollow : (disk.put (inner ++ [name]) entry).follow inner name = .ok (inner ++ [name]) := by
    rw [follow_eq_ok_iff, if_neg (by simp [hempty, hdot]), if_neg hdots, entry?_put_self (by simp)]
    exact ⟨hextends.directories inner hdirectory, hshort, rfl, rfl⟩
  have hnonempty : path ≠ "" := by
    rintro rfl
    have hnone : [] ++ [[]] = outer ++ [name] := hparts
    exact hempty (List.singleton_inj.mp (List.append_inj_right' hnone rfl)).symm
  refine place_eq_ok_iff.mpr ⟨hcheck, hnonempty, ?_⟩
  rw [hparts, hextends.start_eq]
  exact foldlM_concat_eq_ok (hextends.foldlM_follow_eq hinner) hfollow

/-- A text was written to a place: the file is there, where no directory was, and the path leads to
it by its last name. -/
structure Wrote (disk : Disk) (path text : String) (place : Place) (later : Disk) : Prop where
  free : disk.isDirectoryAt place = false
  eq_put : later = disk.put place (.file (.text text))
  leads : later.place path = .ok place
  named : ∃ inner name, place = inner ++ [name] ∧ EndsIn path.toList name

theorem exists_of_write (h : disk.write path text = .ok later) :
    ∃ place, Wrote disk path text place later := by
  have hwritten := eq_ok_of_mapError_eq_ok h
  cases hlast : lastName? path with
  | none =>
    rw [hlast] at hwritten
    obtain ⟨_, -, hthrow⟩ := exists_of_bind_eq_ok hwritten
    cases hthrow
  | some last =>
    obtain ⟨outer, name⟩ := last
    rw [hlast] at hwritten
    obtain ⟨place, hplace, hput⟩ := exists_of_bind_eq_ok hwritten
    by_cases hrefused : disk.isDirectoryAt place ∨ path.toList.getLast? = some '/'
    · rw [if_pos (by simpa using hrefused)] at hput
      cases hput
    · rw [if_neg (by simpa using hrefused)] at hput
      cases hput
      obtain ⟨hnotDirectory, hslash⟩ := not_or.mp hrefused
      have hfree : disk.isDirectoryAt place = false := by simpa using hnotDirectory
      obtain ⟨hparts, hends, hempty, hdot, hdots⟩ := lastName?_eq_some hlast hslash
      have hleads := place_put (.file (.text text)) hplace hfree hparts hempty hdot hdots
      obtain ⟨inner, -, -, -, -, rfl⟩ := newPlace_eq_ok hplace
      exact ⟨inner ++ [name], hfree, rfl, hleads, inner, name, rfl, hends⟩

/-! ### Reading -/

theorem read_eq_ok_iff {content : Content} : disk.read path = .ok content ↔
    ∃ place, disk.place path = .ok place ∧ disk.entry? place = some (.file content) := by
  unfold read
  cases hplace : disk.place path with
  | error fault => simp
  | ok place =>
    simp only [Except.ok.injEq, exists_eq_left']
    split
    · next hentry => simp [hentry]
    · next hentry => simp [hentry]
    · next hentry => simp [hentry]

/-- Writes texts under paths, from the first to the last. -/
def writeAll (disk : Disk) (outputs : List (String × String)) : Except DiskFailure Disk :=
  outputs.foldlM (fun disk (path, text) ↦ disk.write path text) disk

theorem writeAll_cons_eq_ok {outputs : List (String × String)}
    (h : disk.writeAll ((path, text) :: outputs) = .ok later) :
    ∃ place middle, Wrote disk path text place middle ∧ middle.writeAll outputs = .ok later := by
  obtain ⟨middle, hwrite, hrest⟩ := exists_of_bind_eq_ok h
  obtain ⟨place, hwrote⟩ := exists_of_write hwrite
  exact ⟨place, middle, hwrote, hrest⟩

theorem Wrote.extends (h : Wrote disk path text place later) : Extends disk later :=
  h.eq_put ▸ .put h.free

theorem extends_of_writeAll {outputs : List (String × String)}
    (h : disk.writeAll outputs = .ok later) : Extends disk later := by
  induction outputs generalizing disk with
  | nil =>
    cases h
    exact .refl _
  | cons output rest ih =>
    obtain ⟨place, middle, hwrote, hrest⟩ := writeAll_cons_eq_ok h
    exact hwrote.extends.trans (ih hrest)

/-- What no path leads to stays as it was. -/
theorem entry?_of_writeAll {outputs : List (String × String)}
    (h : disk.writeAll outputs = .ok later)
    (hother : ∀ output ∈ outputs, later.place output.1 ≠ .ok place) :
    later.entry? place = disk.entry? place := by
  induction outputs generalizing disk with
  | nil =>
    cases h
    rfl
  | cons output rest ih =>
    obtain ⟨written, middle, hwrote, hrest⟩ := writeAll_cons_eq_ok h
    rw [ih hrest fun other hmem ↦ hother other (List.mem_cons_of_mem _ hmem), hwrote.eq_put]
    refine entry?_put_of_ne ?_
    rintro rfl
    exact hother output List.mem_cons_self
      ((extends_of_writeAll hrest).place_eq hwrote.leads)

/-- Every path leads, by its last name, to a place. -/
theorem place_of_writeAll {outputs : List (String × String)}
    (h : disk.writeAll outputs = .ok later) (hmem : path ∈ outputs.map Prod.fst) :
    ∃ inner name, later.place path = .ok (inner ++ [name]) ∧ EndsIn path.toList name := by
  induction outputs generalizing disk with
  | nil => cases hmem
  | cons first rest ih =>
    obtain ⟨place, middle, hwrote, hrest⟩ := writeAll_cons_eq_ok h
    rcases List.mem_cons.mp hmem with rfl | hmem
    · obtain ⟨inner, name, rfl, hends⟩ := hwrote.named
      exact ⟨inner, name, (extends_of_writeAll hrest).place_eq hwrote.leads, hends⟩
    · exact ih hrest hmem

/-- Each path leads to its text. -/
def Keeps (disk : Disk) (outputs : List (String × String)) : Prop :=
  ∀ output ∈ outputs, disk.read output.1 = .ok (.text output.2)

/-- Each path leads to the text of the last output at its place. -/
def KeepsLast (disk : Disk) (outputs : List (String × String)) : Prop :=
  ∀ output ∈ outputs, ∃ before kept after, outputs = before ++ kept :: after ∧
    disk.place kept.1 = disk.place output.1 ∧
    (∀ other ∈ after, disk.place other.1 ≠ disk.place output.1) ∧
    disk.read output.1 = .ok (.text kept.2)

theorem keepsLast_of_writeAll {outputs : List (String × String)}
    (h : disk.writeAll outputs = .ok later) : later.KeepsLast outputs := by
  induction outputs generalizing disk with
  | nil => exact fun _ hmem ↦ absurd hmem List.not_mem_nil
  | cons first rest ih =>
    obtain ⟨place, middle, hwrote, hrest⟩ := writeAll_cons_eq_ok h
    intro output hmem
    -- Either a later text goes to the place of the output, and then the last of these is kept, or
    -- the output is the first and nothing follows at its place.
    by_cases hagain : ∃ other ∈ rest, later.place other.1 = later.place output.1
    · obtain ⟨other, hother, hsame⟩ := hagain
      obtain ⟨before, kept, after, hparts, hkept, hafter, hread⟩ := ih hrest other hother
      rw [hsame] at hkept hafter
      refine ⟨first :: before, kept, after, by rw [hparts, List.cons_append], hkept, hafter, ?_⟩
      obtain ⟨found, hfound, hentry⟩ := read_eq_ok_iff.mp hread
      exact read_eq_ok_iff.mpr ⟨found, hsame ▸ hfound, hentry⟩
    · push Not at hagain
      rcases List.mem_cons.mp hmem with rfl | hmem
      · refine ⟨[], output, rest, rfl, rfl, hagain, ?_⟩
        have hleads := (extends_of_writeAll hrest).place_eq hwrote.leads
        refine read_eq_ok_iff.mpr ⟨place, hleads, ?_⟩
        rw [hleads] at hagain
        obtain ⟨inner, name, rfl, -⟩ := hwrote.named
        rw [entry?_of_writeAll hrest hagain, hwrote.eq_put, entry?_put_self (by simp)]
      · exact absurd rfl (hagain output hmem)

/-- Assumes: no two outputs go to one place. -/
theorem KeepsLast.keeps {outputs : List (String × String)} (h : disk.KeepsLast outputs)
    (hapart : ∀ first ∈ outputs, ∀ second ∈ outputs,
      disk.place first.1 = disk.place second.1 → first = second) : disk.Keeps outputs := by
  intro output hmem
  obtain ⟨before, kept, after, hparts, hplace, -, hread⟩ := h output hmem
  rwa [hapart kept (by simp [hparts]) output hmem hplace] at hread

end ClientGen.Disk
