import ClientGen.FieldName
import ClientGen.Proofs.Text.Splice
import Mathlib.Tactic.Common

/-!
# JSON names in one pass

The JSON name of a field is made of the parts between its underscores. A single pass over the name
writes the same: it drops the underscores, and puts the first character behind them in upper case
(`jsonChars_eq_onePass`). No character but the underscore has an underscore in its upper case form
(`Text.underscore_notMem_upperChar`). So a JSON name has no underscore, and is a JSON name of its
own (`json_eq_onePass`).
-/

set_option autoImplicit false
set_option relaxedAutoImplicit false

namespace ClientGen

namespace Text

/-! ### What upper case forms are made of -/

/-- Assumes: each run has its images below or above a code point. Nothing is mapped to it. -/
theorem mapByRuns_ne {runs : List (Nat × Nat × Nat × Nat)} {target : Nat}
    (hruns : ∀ run ∈ runs, target < run.2.2.2 ∨ run.2.2.2 + (run.2.1 - run.1) < target) (n : Nat) :
    mapByRuns runs n ≠ some target := by
  intro htarget
  obtain ⟨⟨first, last, stride, image⟩, hrun, himage⟩ := List.exists_of_findSome?_eq_some htarget
  have hapart := hruns _ hrun
  dsimp only at hapart himage
  split at himage
  · next hinside =>
    simp only [Bool.and_eq_true, decide_eq_true_eq] at hinside
    have hsum : image + (n - first) = target := Option.some.inj himage
    omega
  · cases himage

theorem eq_toNat_of_ofNat_eq {c : Char} {n : Nat} (h : Char.ofNat n = c) (hc : c ≠ '\x00') :
    n = c.toNat := by
  subst h
  by_cases hvalid : n.isValidChar
  · rw [Char.ofNat, dif_pos hvalid]
    rfl
  · exact absurd (dif_neg hvalid) hc

/-- Assumes: neither table has an image with the character. Then only the character itself can be
mapped to it. -/
theorem notMem_mapCase {special : List (Nat × List Nat)} {runs : List (Nat × Nat × Nat × Nat)}
    {c target : Char} (hc : c ≠ target) (hnull : target ≠ '\x00')
    (hspecial : ∀ entry ∈ special, target ∉ entry.2.map Char.ofNat)
    (hruns : ∀ run ∈ runs,
      target.toNat < run.2.2.2 ∨ run.2.2.2 + (run.2.1 - run.1) < target.toNat) :
    target ∉ mapCase special runs c := by
  unfold mapCase
  split
  · next image himage =>
    obtain ⟨before, after, hentries, -⟩ := List.lookup_eq_some_iff.mp himage
    exact hspecial (c.toNat, image) (by simp [hentries])
  · split
    · next image himage =>
      intro htarget
      have hcode : image = target.toNat :=
        eq_toNat_of_ofNat_eq (List.mem_singleton.mp htarget).symm hnull
      exact mapByRuns_ne hruns c.toNat (hcode ▸ himage)
    · exact fun htarget ↦ hc (List.mem_singleton.mp htarget).symm

theorem underscore_notMem_upperChar {c : Char} (hc : c ≠ '_') : '_' ∉ upperChar c :=
  notMem_mapCase hc (by decide) (by decide +kernel) (by decide +kernel)

end Text

open Text

namespace FieldName

/-- One pass over a name. An underscore is dropped and sets the mark; any other character clears it,
and is put in upper case if the mark was set. -/
def onePass : Bool → List Char → List Char
  | _, [] => []
  | marked, c :: rest =>
    if c = '_' then onePass true rest
    else (if marked then upperChar c else [c]) ++ onePass false rest

/-- With the mark set, the first part is capitalized like the others. -/
theorem jsonChars_eq_onePass (cs : List Char) :
    jsonChars cs = onePass false cs ∧
      (splitOn '_' cs).flatMap capitalize = onePass true cs := by
  induction cs with
  | nil => exact ⟨rfl, rfl⟩
  | cons c rest ih =>
    by_cases hc : c = '_'
    · subst hc
      have hdropped (marked : Bool) : onePass marked ('_' :: rest) = onePass true rest :=
        if_pos rfl
      rw [hdropped, hdropped, ← ih.2, jsonChars, splitOn_separator_cons, List.flatMap_cons]
      exact ⟨rfl, rfl⟩
    · obtain ⟨part, parts, hrest, hcons⟩ := exists_splitOn_cons hc rest
      have hwritten : onePass false rest = part ++ parts.flatMap capitalize := by
        rw [← ih.1, jsonChars, hrest]
      rw [jsonChars, hcons, onePass, onePass, if_neg hc, if_neg hc, hwritten]
      refine ⟨rfl, ?_⟩
      rw [List.flatMap_cons, capitalize, List.append_assoc]
      rfl

theorem underscore_notMem_onePass (marked : Bool) (cs : List Char) :
    '_' ∉ onePass marked cs := by
  induction cs generalizing marked with
  | nil => exact List.not_mem_nil
  | cons c rest ih =>
    rw [onePass]
    split_ifs with hc hmarked
    · exact ih true
    · exact List.not_mem_append (underscore_notMem_upperChar hc) (ih false)
    · exact List.not_mem_append (by simpa using Ne.symm hc) (ih false)

/-- The JSON name of a field is what one pass over its name writes. It has no underscore, and is its
own JSON name. -/
theorem json_eq_onePass (name : String) :
    (json name).toList = onePass false name.toList ∧ '_' ∉ (json name).toList ∧
      json (json name) = json name := by
  have hpass : (json name).toList = onePass false name.toList := by
    rw [json, String.toList_ofList]
    exact (jsonChars_eq_onePass name.toList).1
  have hnone : '_' ∉ (json name).toList := by
    rw [hpass]
    exact underscore_notMem_onePass false name.toList
  refine ⟨hpass, hnone, ?_⟩
  rw [json, jsonChars, splitOn_of_notMem hnone]
  simp

/-- A run of underscores raises one character, which may become several. -/
example : json "__größe_x__ßa_" = "GrößeXSSa" := by decide +kernel

end FieldName

end ClientGen
