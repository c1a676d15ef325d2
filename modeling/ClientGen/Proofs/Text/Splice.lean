import ClientGen.Text.Splice
import Mathlib.Algebra.Ring.Nat
import Mathlib.Data.List.Basic
import Mathlib.Data.List.Induction

/-!
# Cutting and joining

Cutting at a character gives at least one part, and no part has that character in it. The parts make
up the text again (`joinWith_splitOn`), and any parts without the separator are cut out again where
they were put together (`splitOn_joinWith`).
-/

set_option autoImplicit false
set_option relaxedAutoImplicit false

namespace ClientGen.Text

variable {separator c : Char} {cs part : List Char} {parts : List (List Char)}

/-! ### Cutting -/

theorem splitOn_ne_nil (separator : Char) (cs : List Char) : splitOn separator cs ≠ [] := by
  cases cs with
  | nil => exact List.cons_ne_nil _ _
  | cons c rest =>
    unfold splitOn
    split
    · exact List.cons_ne_nil _ _
    · split
      · exact List.cons_ne_nil _ _
      · exact List.cons_ne_nil _ _

theorem splitOn_separator_cons (separator : Char) (rest : List Char) :
    splitOn separator (separator :: rest) = [] :: splitOn separator rest :=
  if_pos rfl

/-- A character that is no separator goes to the first part. -/
theorem exists_splitOn_cons (hc : c ≠ separator) (rest : List Char) :
    ∃ part parts, splitOn separator rest = part :: parts ∧
      splitOn separator (c :: rest) = (c :: part) :: parts := by
  obtain ⟨part, parts, hparts⟩ := List.exists_cons_of_ne_nil (splitOn_ne_nil separator rest)
  exact ⟨part, parts, hparts, by rw [splitOn, if_neg hc, hparts]⟩

theorem splitOn_of_notMem (h : separator ∉ cs) : splitOn separator cs = [cs] := by
  induction cs with
  | nil => rfl
  | cons c rest ih =>
    obtain ⟨hhead, hrest⟩ := List.ne_and_not_mem_of_not_mem_cons h
    rw [splitOn, if_neg hhead.symm, ih hrest]

/-- Cutting at a separator cuts what stands on its two sides. -/
theorem splitOn_append_cons (front rest : List Char) :
    splitOn separator (front ++ separator :: rest) =
      splitOn separator front ++ splitOn separator rest := by
  induction front with
  | nil => exact splitOn_separator_cons separator rest
  | cons c front ih =>
    rw [List.cons_append]
    by_cases hc : c = separator
    · subst hc
      rw [splitOn_separator_cons, splitOn_separator_cons, ih, List.cons_append]
    · obtain ⟨part, parts, hfront, hcons⟩ := exists_splitOn_cons hc front
      rw [hcons, splitOn, if_neg hc, ih, hfront]
      rfl

theorem notMem_of_mem_splitOn (h : part ∈ splitOn separator cs) : separator ∉ part := by
  induction cs generalizing part with
  | nil =>
    obtain rfl := List.mem_singleton.mp h
    exact List.not_mem_nil
  | cons c rest ih =>
    by_cases hc : c = separator
    · subst hc
      rw [splitOn_separator_cons] at h
      rcases List.mem_cons.mp h with rfl | h
      · exact List.not_mem_nil
      · exact ih h
    · obtain ⟨first, parts, hrest, hcons⟩ := exists_splitOn_cons hc rest
      rw [hcons] at h
      rw [hrest] at ih
      rcases List.mem_cons.mp h with rfl | h
      · exact List.not_mem_cons_of_ne_of_not_mem (Ne.symm hc) (ih List.mem_cons_self)
      · exact ih (List.mem_cons_of_mem _ h)

/-! ### Joining -/

theorem joinWith_concat (hparts : parts ≠ []) (part : List Char) :
    joinWith [separator] (parts ++ [part]) = joinWith [separator] parts ++ separator :: part := by
  induction parts with
  | nil => exact absurd rfl hparts
  | cons first rest ih =>
    cases rest with
    | nil => simp [joinWith]
    | cons second rest =>
      have hrest := ih (List.cons_ne_nil second rest)
      simp only [List.cons_append, joinWith] at hrest ⊢
      rw [hrest]
      simp

/-- What is put together begins like the first part. -/
theorem head?_joinWith_cons (separator : List Char) (hpart : part ≠ [])
    (parts : List (List Char)) : (joinWith separator (part :: parts)).head? = part.head? := by
  cases parts with
  | nil => rfl
  | cons next others =>
    rw [joinWith.eq_3 _ _ _ (List.cons_ne_nil next others), List.append_assoc,
      List.head?_append_of_ne_nil _ hpart]

/-- What is put together ends like the last part. -/
theorem getLast?_joinWith_concat (hpart : part ≠ []) (parts : List (List Char)) :
    (joinWith [separator] (parts ++ [part])).getLast? = part.getLast? := by
  by_cases hparts : parts = []
  · rw [hparts]
    rfl
  · rw [joinWith_concat hparts, List.append_cons,
      List.getLast?_append_of_ne_nil _ hpart]

/-- The number of bytes of parts with slashes between them. -/
theorem utf8ByteSize_joinWith {parts : List (List Char)} (hparts : parts ≠ []) :
    (String.ofList (joinWith ['/'] parts)).utf8ByteSize + 1 =
      (parts.map fun part ↦ (String.ofList part).utf8ByteSize + 1).sum := by
  induction parts using joinWith.induct with
  | case1 => exact absurd rfl hparts
  | case2 part => simp [joinWith]
  | case3 part parts hne ih =>
    have hslash : (String.ofList ['/']).utf8ByteSize = 1 := by decide
    rw [joinWith.eq_3 _ _ _ hne, List.map_cons, List.sum_cons, ← ih hne, String.ofList_append,
      String.ofList_append, String.utf8ByteSize_append, String.utf8ByteSize_append, hslash]
    omega

theorem mem_joinWith (h : c ∈ joinWith [separator] parts) :
    c = separator ∨ ∃ part ∈ parts, c ∈ part := by
  induction parts using List.reverseRecOn with
  | nil => exact absurd h List.not_mem_nil
  | append_singleton front last ih =>
    cases front with
    | nil => exact .inr ⟨last, List.mem_singleton_self last, h⟩
    | cons first rest =>
      rw [joinWith_concat (List.cons_ne_nil first rest)] at h
      rcases List.mem_append.mp h with h | h
      · refine (ih h).imp_right fun ⟨part, hpart, hc⟩ ↦ ⟨part, ?_, hc⟩
        exact List.mem_append_left _ hpart
      · rcases List.mem_cons.mp h with rfl | h
        · exact .inl rfl
        · exact .inr ⟨last, by simp, h⟩

theorem mem_joinWith_of_mem (separator : List Char) (hpart : part ∈ parts) (hc : c ∈ part) :
    c ∈ joinWith separator parts := by
  induction parts using joinWith.induct with
  | case1 => exact absurd hpart List.not_mem_nil
  | case2 only =>
    obtain rfl := List.mem_singleton.mp hpart
    exact hc
  | case3 first rest hne ih =>
    rw [joinWith.eq_3 _ _ _ hne]
    rcases List.mem_cons.mp hpart with rfl | hpart
    · exact List.mem_append_left _ (List.mem_append_left _ hc)
    · exact List.mem_append_right _ (ih hpart)

theorem joinWith_eq_intercalate (separator : List Char) (parts : List (List Char)) :
    joinWith separator parts = separator.intercalate parts := by
  induction parts using joinWith.induct with
  | case1 => rfl
  | case2 part => exact (List.intercalate_singleton).symm
  | case3 part parts hne ih =>
    obtain ⟨next, others, rfl⟩ := List.exists_cons_of_ne_nil hne
    rw [joinWith.eq_3 _ _ _ hne, ih, List.intercalate_cons_cons]

/-- The parts of a text make it up again. -/
theorem joinWith_splitOn (separator : Char) (cs : List Char) :
    joinWith [separator] (splitOn separator cs) = cs := by
  induction cs with
  | nil => rfl
  | cons c rest ih =>
    by_cases hc : c = separator
    · subst hc
      rw [splitOn_separator_cons, joinWith.eq_3 _ _ _ (splitOn_ne_nil c rest), ih]
      rfl
    · obtain ⟨part, parts, hrest, hcons⟩ := exists_splitOn_cons hc rest
      rw [hrest] at ih
      rw [hcons, ← ih]
      cases parts with
      | nil => rfl
      | cons next others => rfl

theorem mem_of_mem_splitOn (h : part ∈ splitOn separator cs) (hc : c ∈ part) : c ∈ cs := by
  rw [← joinWith_splitOn separator cs]
  exact mem_joinWith_of_mem _ h hc

/-- Parts without the separator are cut out again where they were put together. -/
theorem splitOn_joinWith (hparts : ∀ part ∈ parts, separator ∉ part) (hne : parts ≠ []) :
    splitOn separator (joinWith [separator] parts) = parts := by
  induction parts using List.reverseRecOn with
  | nil => exact absurd rfl hne
  | append_singleton front last ih =>
    have hlast := hparts last (by simp)
    cases front with
    | nil => exact splitOn_of_notMem hlast
    | cons first rest =>
      have hfront := ih (fun part hpart ↦ hparts part (List.mem_append_left _ hpart))
        (List.cons_ne_nil first rest)
      rw [joinWith_concat (List.cons_ne_nil first rest), splitOn_append_cons, hfront,
        splitOn_of_notMem hlast]

end ClientGen.Text
