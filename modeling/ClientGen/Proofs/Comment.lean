import ClientGen.Comment
import ClientGen.Proofs.Text.Lines
import Mathlib.Data.List.DropRight

/-!
# Lines of clean comments

A trimmed text is empty or ends in a character that is no blank, so that its last line keeps a
character when it is trimmed. So the lines of a clean comment are the lines of the text that was
cleaned, trimmed (`lineChars_cleanChars`): none gets lost at the end, and only line feeds are left
between them. A comment on one line has no break (`unbroken_oneLine`).
-/

set_option autoImplicit false
set_option relaxedAutoImplicit false

namespace ClientGen

namespace Text

variable {c : Char} {cs : List Char}

/-- Every line break is blank. -/
theorem isBlank_of_isLineBreak (h : isLineBreak c = true) : isBlank c = true := by
  simp only [isLineBreak, isBlank, Bool.or_eq_true, Bool.and_eq_true, decide_eq_true_eq,
    beq_iff_eq] at h ⊢
  omega

theorem isLineBreak_eq_false_of_not_blank (h : isBlank c = false) : isLineBreak c = false := by
  cases hbreak : isLineBreak c with
  | false => rfl
  | true => exact absurd (isBlank_of_isLineBreak hbreak) (Bool.eq_false_iff.mp h)

theorem trim_sublist (cs : List Char) : (trim cs).Sublist cs := by
  have hleft : (trimLeft cs).Sublist cs := List.dropWhile_sublist _
  have hright : (trim cs).Sublist (trimLeft cs) := (List.rdropWhile_prefix isBlank _).sublist
  exact hright.trans hleft

theorem Unbroken.trim (h : Unbroken cs) : Unbroken (trim cs) :=
  fun c hc ↦ h c ((trim_sublist cs).subset hc)

/-- A trimmed text that is not empty ends in a character that is no blank. -/
theorem exists_trim_eq_concat (h : trim cs ≠ []) :
    ∃ front c, trim cs = front ++ [c] ∧ isBlank c = false := by
  have hlast : ¬isBlank ((trim cs).getLast h) = true := List.rdropWhile_last_not isBlank _ h
  exact ⟨_, _, (List.dropLast_append_getLast h).symm, Bool.eq_false_iff.mpr hlast⟩

/-- Trimming keeps characters that are no blanks. -/
theorem trim_ne_nil (hc : isBlank c = false) (hmem : c ∈ cs) : trim cs ≠ [] := by
  intro hempty
  have hall : ∀ d ∈ trimLeft cs, isBlank d = true := List.rdropWhile_eq_nil_iff.mp hempty
  have hmem : c ∈ trimLeft cs := by
    rw [← List.takeWhile_append_dropWhile (p := isBlank) (l := cs)] at hmem
    rcases List.mem_append.mp hmem with hfront | hback
    · rw [List.mem_takeWhile_imp hfront] at hc
      exact absurd hc (by decide)
    · exact hback
  rw [hall c hmem] at hc
  exact absurd hc (by decide)

end Text

namespace Comment

open Text

/-- The last line of a trimmed text is not lost when it is trimmed itself. -/
theorem ne_nil_of_mem_getLast? {cs last : List Char}
    (h : last ∈ ((lineChars (trim cs)).map trim).getLast?) : last ≠ [] := by
  by_cases hempty : trim cs = []
  · rw [hempty] at h
    cases h
  · obtain ⟨front, c, htrim, hc⟩ := exists_trim_eq_concat hempty
    obtain ⟨before, line, hlines⟩ :=
      exists_lineChars_concat (isLineBreak_eq_false_of_not_blank hc) front
    rw [htrim, hlines, List.map_append, List.map_singleton, List.getLast?_concat,
      Option.mem_some_iff] at h
    rw [← h]
    exact trim_ne_nil hc List.mem_concat_self

theorem unbroken_of_mem_trimmed {cs part : List Char}
    (h : part ∈ (lineChars (trim cs)).map trim) : Unbroken part := by
  obtain ⟨line, hline, rfl⟩ := List.mem_map.mp h
  exact (unbroken_of_mem_lineChars hline).trim

/-- Cleaning a comment trims its lines, and loses none between the first and the last that are not
blank. -/
theorem lineChars_cleanChars (cs : List Char) :
    lineChars (cleanChars cs) = (lineChars (trim cs)).map trim :=
  lineChars_joinWith (fun _ ↦ unbroken_of_mem_trimmed) fun _ ↦ ne_nil_of_mem_getLast?

theorem unbroken_oneLine (s : String) : Unbroken (oneLine s).toList := by
  rw [oneLine, String.toList_ofList]
  have hspace : Unbroken [' '] := unbroken_cons.mpr ⟨by decide, .nil⟩
  exact unbroken_joinWith hspace fun _ ↦ unbroken_of_mem_lineChars

/-- A clean comment is its lines with line feeds between them, and nothing else ends a line. -/
theorem clean_eq_joinWith (s : String) :
    (clean s).toList = joinWith ['\n'] (lineChars (clean s).toList) := by
  rw [clean, String.toList_ofList, lineChars_cleanChars]
  rfl

end Comment

end ClientGen
