import ClientGen.Disk
import ClientGen.Proofs.Text.Splice
import Mathlib.Data.List.Basic

/-!
# The last name of a path

Every path ends in one name, which may be empty: what stands behind its last slash (`EndsIn`).
Cutting at slashes gives that name as the last part (`exists_parts_of_endsIn`). The path of a file
in a directory ends in the name of the file, and leaving out empty parts and single dots keeps it
there (`endsIn_join`, `endsIn_tidy`).
-/

set_option autoImplicit false
set_option relaxedAutoImplicit false

namespace ClientGen

open Text

namespace Path

/-- Whether a path ends in a name: the name has no slash, and is the path or follows a slash at its
end. -/
def EndsIn (cs name : List Char) : Prop :=
  '/' ∉ name ∧ (cs = name ∨ ∃ front, cs = front ++ '/' :: name)

theorem exists_endsIn (cs : List Char) : ∃ name, EndsIn cs name := by
  induction cs with
  | nil => exact ⟨[], List.not_mem_nil, .inl rfl⟩
  | cons c rest ih =>
    obtain ⟨name, hslash, rfl | ⟨front, rfl⟩⟩ := ih
    · by_cases hc : c = '/'
      · exact ⟨rest, hslash, .inr ⟨[], by rw [hc, List.nil_append]⟩⟩
      · refine ⟨c :: rest, ?_, .inl rfl⟩
        exact List.not_mem_cons_of_ne_of_not_mem (Ne.symm hc) hslash
    · exact ⟨name, hslash, .inr ⟨c :: front, rfl⟩⟩

theorem exists_parts_of_endsIn {path : String} {name : List Char} (h : EndsIn path.toList name) :
    ∃ outer, parts path = outer ++ [name] := by
  unfold parts
  obtain ⟨hslash, hname | ⟨front, hfront⟩⟩ := h
  · exact ⟨[], by rw [hname, splitOn_of_notMem hslash, List.nil_append]⟩
  · exact ⟨splitOn '/' front, by rw [hfront, splitOn_append_cons, splitOn_of_notMem hslash]⟩

/-- A path ends in one name only. -/
theorem EndsIn.unique {path : String} {name other : List Char} (h : EndsIn path.toList name)
    (hother : EndsIn path.toList other) : name = other := by
  obtain ⟨outer, hparts⟩ := exists_parts_of_endsIn h
  obtain ⟨outerOther, hpartsOther⟩ := exists_parts_of_endsIn hother
  rw [hparts] at hpartsOther
  exact List.singleton_inj.mp (List.append_inj_right' hpartsOther rfl)

theorem endsIn_join (directory : String) {file : String} (hslash : '/' ∉ file.toList) :
    EndsIn (join directory file).toList file.toList := by
  have hrelative : isAbsolute file = false := by
    have hhead : file.toList.head? ≠ some '/' := fun h ↦ hslash (List.mem_of_mem_head? h)
    simpa [isAbsolute] using hhead
  refine ⟨hslash, ?_⟩
  unfold join
  rw [hrelative, if_neg Bool.false_ne_true]
  split
  · next hplain =>
    simp only [Bool.or_eq_true, decide_eq_true_eq] at hplain
    rcases hplain with rfl | hlast
    · exact .inl (by simp)
    · obtain ⟨front, hfront⟩ := List.getLast?_eq_some_iff.mp hlast
      exact .inr ⟨front, by rw [String.toList_append, hfront, List.append_assoc]; rfl⟩
  · exact .inr ⟨directory.toList, by simp⟩

/-- The last name of a path behind its leading slashes. -/
theorem endsIn_rooted {root : String} (hroot : root = "//" ∨ root = "/" ∨ root = "")
    (outer : List (List Char)) {name : List Char} (hslash : '/' ∉ name) :
    EndsIn (root ++ String.ofList (joinWith ['/'] (outer ++ [name]))).toList name := by
  rw [String.toList_append, String.toList_ofList]
  refine ⟨hslash, ?_⟩
  by_cases hnone : outer = []
  · subst hnone
    rcases hroot with rfl | rfl | rfl
    · exact .inr ⟨['/'], rfl⟩
    · exact .inr ⟨[], rfl⟩
    · exact .inl rfl
  · rw [joinWith_concat hnone, ← List.append_assoc]
    exact .inr ⟨_, rfl⟩

/-- Leaving out empty parts and single dots keeps any other last name. -/
theorem endsIn_tidy {path : String} {name : List Char} (h : EndsIn path.toList name)
    (hempty : name ≠ []) (hdot : name ≠ ['.']) : EndsIn (tidy path).toList name := by
  obtain ⟨outer, hparts⟩ := exists_parts_of_endsIn h
  have hkept : (parts path).filter (fun part ↦ part ≠ [] && part ≠ ['.']) =
      outer.filter (fun part ↦ part ≠ [] && part ≠ ['.']) ++ [name] := by
    rw [hparts, List.filter_append, List.filter_singleton]
    simp [hempty, hdot]
  unfold tidy
  rw [hkept]
  dsimp only
  rw [if_neg (by simp)]
  refine endsIn_rooted ?_ _ h.1
  split_ifs
  · exact .inl rfl
  · exact .inr (.inl rfl)
  · exact .inr (.inr rfl)

end Path

end ClientGen
