import ClientGen.Proofs.Results
import ClientGen.Disk

/-!
# Null characters in paths

A null character in a path is found before anything else is asked of the path, and no later step can
fail in that way (`Disk.Checked`). So the failure of a step is that of a null character just if the
path it was asked for has one (`DiskFailure.Proper`), whatever the step is and also if it makes
several directories.
-/

set_option autoImplicit false
set_option relaxedAutoImplicit false

namespace ClientGen

/-- A failure blames a null character just if its path has one. -/
def DiskFailure.Proper (failure : DiskFailure) : Prop :=
  failure.fault = .nullByte ↔ '\x00' ∈ failure.path.toList

namespace Disk

variable {α β : Type} {disk : Disk} {path text : String} {failure : DiskFailure}

/-- A step looks for null characters in a path: it fails for one just if the path has one, and it
only goes on if there is none. -/
structure Checked (path : String) (x : Except DiskFault α) : Prop where
  error_iff : ∀ fault, x = .error fault → (fault = .nullByte ↔ '\x00' ∈ path.toList)
  notMem : ∀ a, x = .ok a → '\x00' ∉ path.toList

theorem checked_checkPath (path : String) : Checked path (checkPath path) := by
  unfold checkPath
  by_cases hnull : '\x00' ∈ path.toList
  · rw [if_pos (List.contains_iff_mem.mpr hnull)]
    refine ⟨fun fault h ↦ ?_, nofun⟩
    cases h
    exact ⟨fun _ ↦ hnull, fun _ ↦ rfl⟩
  · rw [if_neg (fun h ↦ hnull (List.contains_iff_mem.mp h))]
    refine ⟨fun fault h ↦ ?_, fun _ _ ↦ hnull⟩
    split at h
    · cases h
      exact ⟨nofun, fun hmem ↦ absurd hmem hnull⟩
    · cases h

/-- A checked step followed by one that blames no null character. -/
theorem Checked.bind {x : Except DiskFault α} {f : α → Except DiskFault β} (h : Checked path x)
    (hnext : ∀ a, f a ≠ .error .nullByte) : Checked path (x >>= f) := by
  cases x with
  | error found => exact ⟨fun fault herror ↦ h.error_iff fault (by cases herror; rfl), nofun⟩
  | ok a =>
    have hnull : '\x00' ∉ path.toList := h.notMem a rfl
    refine ⟨fun fault herror ↦ ⟨?_, fun hmem ↦ absurd hmem hnull⟩, fun _ _ ↦ hnull⟩
    rintro rfl
    exact absurd herror (hnext a)

theorem follow_ne_nullByte (place : Place) (part : List Char) :
    disk.follow place part ≠ .error .nullByte := by
  unfold follow
  split_ifs <;> simp

theorem foldlM_follow_ne_nullByte (parts : List (List Char)) (place : Place) :
    parts.foldlM disk.follow place ≠ .error .nullByte := by
  induction parts generalizing place with
  | nil => nofun
  | cons part parts ih =>
    rw [List.foldlM_cons]
    cases hfollow : disk.follow place part with
    | error fault =>
      intro herror
      cases herror
      exact follow_ne_nullByte place part hfollow
    | ok next => exact ih next

theorem checked_place (disk : Disk) (path : String) : Checked path (disk.place path) := by
  refine (checked_checkPath path).bind fun _ ↦ ?_
  by_cases hempty : path = ""
  · rw [if_pos hempty]
    nofun
  · rw [if_neg hempty]
    exact foldlM_follow_ne_nullByte _ _

theorem checked_newPlace (disk : Disk) (path : String) (outer : List (List Char))
    (name : List Char) : Checked path (disk.newPlace path outer name) := by
  refine (checked_checkPath path).bind fun _ ↦ ?_
  cases hplace : outer.foldlM disk.follow (disk.start path) with
  | error fault =>
    intro herror
    cases herror
    exact foldlM_follow_ne_nullByte _ _ hplace
  | ok place =>
    change (if !disk.isDirectoryAt place then _ else _) ≠ _
    split_ifs <;> nofun

/-- A step fails properly if it is checked for the path that its failure names. -/
theorem Checked.proper {x : Except DiskFault α} (h : Checked path x)
    (herror : x.mapError (⟨·, path⟩) = .error failure) : failure.Proper := by
  cases x with
  | error fault =>
    cases herror
    exact h.error_iff fault rfl
  | ok => cases herror

theorem proper_of_read (h : disk.read path = .error failure) : failure.Proper := by
  have hchecked := disk.checked_place path
  unfold Disk.read at h
  cases hplace : disk.place path with
  | error fault =>
    rw [hplace] at h
    cases h
    exact hchecked.error_iff fault hplace
  | ok place =>
    have hnull : '\x00' ∉ path.toList := hchecked.notMem place hplace
    rw [hplace] at h
    dsimp only at h
    split at h
    · cases h
    · cases h
      exact ⟨nofun, fun hmem ↦ absurd hmem hnull⟩
    · cases h
      exact ⟨nofun, fun hmem ↦ absurd hmem hnull⟩

theorem proper_of_list (h : disk.list path = .error failure) : failure.Proper := by
  have hchecked := disk.checked_place path
  unfold Disk.list at h
  cases hplace : disk.place path with
  | error fault =>
    rw [hplace] at h
    cases h
    exact hchecked.error_iff fault hplace
  | ok place =>
    have hnull : '\x00' ∉ path.toList := hchecked.notMem place hplace
    rw [hplace] at h
    dsimp only at h
    split at h
    · cases h
    · cases h
      exact ⟨nofun, fun hmem ↦ absurd hmem hnull⟩

theorem proper_of_write (h : disk.write path text = .error failure) : failure.Proper := by
  refine Checked.proper ?_ h
  split
  · next outer name _ =>
    refine (disk.checked_newPlace path outer name).bind fun place ↦ ?_
    split_ifs <;> nofun
  · exact (disk.checked_place path).bind fun _ ↦ nofun

theorem proper_of_makeDirectory (h : disk.makeDirectory path = .error failure) :
    failure.Proper := by
  refine Checked.proper ?_ h
  split
  · next outer name _ =>
    refine (disk.checked_newPlace path outer name).bind fun place ↦ ?_
    split_ifs <;> nofun
  · exact (disk.checked_place path).bind fun _ ↦ nofun

theorem proper_of_finish {tail : String} {isInNew : Bool}
    (h : (finish path tail isInNew disk).1 = some failure) : failure.Proper := by
  unfold finish at h
  split at h
  · cases h
  · split at h
    · cases h
    · next hmade =>
      split at h
      · cases h
      · cases h
        exact proper_of_makeDirectory hmade

theorem proper_of_makeDirectories {fuel : Nat}
    (h : (makeDirectories fuel path disk).1 = some failure) : failure.Proper := by
  induction fuel generalizing path disk failure with
  | zero => cases h
  | succ fuel ih =>
    rw [makeDirectories] at h
    split at h
    next head tail _ =>
    split at h
    · split at h
      · next found made houter =>
        split at h
        · exact proper_of_finish h
        · cases h
          exact ih (by rw [houter])
      · exact proper_of_finish h
    · exact proper_of_finish h

theorem proper_of_ensureDirectory (h : (disk.ensureDirectory path).1 = some failure) :
    failure.Proper :=
  proper_of_makeDirectories h

end Disk

end ClientGen
