import ClientGen.Proofs.Comment
import ClientGen.Proofs.Text.Splice

/-!
# The normal form of comments

A comment is in normal form if only line feeds end its lines, no line has a blank at an end, and the
first and the last line are not empty, unless there is nothing at all (`Comment.IsNormal`). Cleaning
gives a comment in normal form (`Comment.isNormal_clean`). The lines of a comment in normal form are
the parts between its line feeds, so that trimming the whole and each line changes nothing, and
cleaning leaves it as it is (`Comment.IsNormal.clean_eq`). So what was cleaned once is clean, and can
be put together from its lines (`Comment.clean_normalizes`).
-/

set_option autoImplicit false
set_option relaxedAutoImplicit false

namespace ClientGen

namespace Text

variable {cs : List Char}

/-! ### Blanks at the ends -/

/-- A text neither begins nor ends in a blank. -/
structure Unpadded (cs : List Char) : Prop where
  head : ∀ c ∈ cs.head?, isBlank c = false
  last : ∀ c ∈ cs.getLast?, isBlank c = false

theorem unpadded_nil : Unpadded [] :=
  ⟨nofun, nofun⟩

theorem unpadded_trim (cs : List Char) : Unpadded (trim cs) where
  head := by
    intro c hc
    -- What is left when blanks are dropped at the end has the first character of the whole.
    have hprefix : trim cs <+: trimLeft cs := List.rdropWhile_prefix isBlank _
    have hleft : (trimLeft cs).head? = some c := by
      obtain ⟨dropped, hdropped⟩ := hprefix
      rw [← hdropped, List.head?_append, hc]
      rfl
    have hfirst := List.head?_dropWhile_not isBlank cs
    rwa [← trimLeft, hleft] at hfirst
  last := by
    intro c hc
    have hne : trim cs ≠ [] := fun hempty ↦ by simp [hempty] at hc
    obtain ⟨front, last, htrim, hlast⟩ := exists_trim_eq_concat hne
    rw [htrim, List.getLast?_concat, Option.mem_some_iff] at hc
    rwa [← hc]

theorem Unpadded.trim_eq (h : Unpadded cs) : trim cs = cs := by
  have hleft : trimLeft cs = cs := by
    cases cs with
    | nil => rfl
    | cons c rest =>
      have hc : isBlank c = false := h.head c rfl
      exact List.dropWhile_cons_of_neg (by simp [hc])
  have hright : cs.rdropWhile isBlank = cs := by
    refine List.rdropWhile_eq_self_iff.mpr fun hne ↦ ?_
    rw [h.last _ (List.getLast?_eq_some_getLast hne)]
    exact Bool.false_ne_true
  rw [trim, hleft]
  exact hright

/-- A character that is no blank begins the first line, which is not lost when it is trimmed. -/
theorem exists_lineChars_of_head? {c : Char} (hc : isBlank c = false) (rest : List Char) :
    ∃ line others, lineChars (c :: rest) = (c :: line) :: others := by
  rw [lineChars_cons (isLineBreak_eq_false_of_not_blank hc)]
  cases lineChars rest with
  | nil => exact ⟨[], [], rfl⟩
  | cons line others => exact ⟨line, others, rfl⟩

end Text

namespace Comment

open Text

/-! ### Clean comments are normal -/

/-- A comment is in normal form: only line feeds end its lines, no line has a blank at an end, and
it is empty or its first and its last line are not. -/
structure IsNormal (comment : String) : Prop where
  lineFeed : ∀ c ∈ comment.toList, isLineBreak c = true → c = '\n'
  unpadded : ∀ line ∈ splitOn '\n' comment.toList, Unpadded line
  bounded : comment = "" ∨ (∀ first ∈ (splitOn '\n' comment.toList).head?, first ≠ []) ∧
    ∀ last ∈ (splitOn '\n' comment.toList).getLast?, last ≠ []

theorem isNormal_empty : IsNormal "" where
  lineFeed := nofun
  unpadded := by
    intro line hline
    obtain rfl := List.mem_singleton.mp hline
    exact unpadded_nil
  bounded := .inl rfl

theorem ne_nil_of_mem_head? {cs first : List Char}
    (h : first ∈ ((lineChars (trim cs)).map trim).head?) : first ≠ [] := by
  cases htrim : trim cs with
  | nil =>
    rw [htrim] at h
    cases h
  | cons c rest =>
    have hc : isBlank c = false := (unpadded_trim cs).head c (by rw [htrim]; rfl)
    obtain ⟨line, others, hlines⟩ := exists_lineChars_of_head? hc rest
    rw [htrim, hlines, List.map_cons, List.head?_cons, Option.mem_some_iff] at h
    rw [← h]
    exact trim_ne_nil hc List.mem_cons_self

/-- The parts of a clean comment between its line feeds are the lines that were trimmed. -/
theorem splitOn_cleanChars {cs : List Char} (hne : trim cs ≠ []) :
    splitOn '\n' (cleanChars cs) = (lineChars (trim cs)).map trim := by
  refine splitOn_joinWith (fun part hpart ↦ (unbroken_of_mem_trimmed hpart).lineFeed_notMem) ?_
  obtain ⟨c, rest, htrim⟩ := List.exists_cons_of_ne_nil hne
  have hc : isBlank c = false := (unpadded_trim cs).head c (by rw [htrim]; rfl)
  obtain ⟨line, others, hlines⟩ := exists_lineChars_of_head? hc rest
  rw [htrim, hlines]
  exact List.cons_ne_nil _ _

theorem isNormal_clean (s : String) : IsNormal (clean s) := by
  by_cases hnone : trim s.toList = []
  · have hempty : clean s = "" := by
      rw [clean, cleanChars, hnone]
      rfl
    rw [hempty]
    exact isNormal_empty
  · have hparts : splitOn '\n' (clean s).toList = (lineChars (trim s.toList)).map trim := by
      rw [clean, String.toList_ofList, splitOn_cleanChars hnone]
    refine ⟨fun c hc hbreak ↦ ?_, fun line hline ↦ ?_, .inr ⟨fun first hfirst ↦ ?_,
      fun last hlast ↦ ?_⟩⟩
    · rw [clean, String.toList_ofList] at hc
      rcases mem_joinWith hc with hfeed | ⟨part, hpart, hc⟩
      · exact hfeed
      · rw [unbroken_of_mem_trimmed hpart c hc] at hbreak
        exact absurd hbreak (by decide)
    · rw [hparts] at hline
      obtain ⟨whole, -, rfl⟩ := List.mem_map.mp hline
      exact unpadded_trim whole
    · exact ne_nil_of_mem_head? (hparts ▸ hfirst)
    · exact ne_nil_of_mem_getLast? (hparts ▸ hlast)

/-! ### Normal comments are clean -/

namespace IsNormal

variable {comment : String}

/-- The lines of a comment in normal form are its parts between line feeds. -/
theorem lineChars_eq (h : IsNormal comment) (hne : comment ≠ "") :
    lineChars comment.toList = splitOn '\n' comment.toList := by
  have hunbroken : ∀ line ∈ splitOn '\n' comment.toList, Unbroken line := by
    intro line hline c hc
    cases hbreak : isLineBreak c with
    | false => rfl
    | true =>
      obtain rfl := h.lineFeed c (mem_of_mem_splitOn hline hc) hbreak
      exact absurd hc (notMem_of_mem_splitOn hline)
  have hlast := (h.bounded.resolve_left hne).2
  have hlines := lineChars_joinWith hunbroken hlast
  rwa [joinWith_splitOn] at hlines

theorem joinWith_lineChars (h : IsNormal comment) :
    joinWith ['\n'] (lineChars comment.toList) = comment.toList := by
  by_cases hempty : comment = ""
  · rw [hempty]
    rfl
  · rw [h.lineChars_eq hempty, joinWith_splitOn]

/-- No blank stands at an end of a comment in normal form. -/
theorem unpadded_toList (h : IsNormal comment) : Unpadded comment.toList := by
  by_cases hempty : comment = ""
  · rw [hempty]
    exact unpadded_nil
  · obtain ⟨hfirst, hlast⟩ := h.bounded.resolve_left hempty
    have hnone : splitOn '\n' comment.toList ≠ [] := splitOn_ne_nil _ _
    have hunpadded := h.unpadded
    rw [← joinWith_splitOn '\n' comment.toList]
    constructor
    · obtain ⟨first, others, hparts⟩ := List.exists_cons_of_ne_nil hnone
      rw [hparts] at hfirst hunpadded ⊢
      rw [head?_joinWith_cons _ (hfirst first rfl)]
      exact (hunpadded first List.mem_cons_self).head
    · obtain ⟨before, last, hparts⟩ := (List.eq_nil_or_concat _).resolve_left hnone
      rw [List.concat_eq_append] at hparts
      rw [hparts] at hlast hunpadded ⊢
      rw [getLast?_joinWith_concat (hlast last (by simp))]
      exact (hunpadded last (by simp)).last

/-- Cleaning leaves a comment in normal form as it is. -/
theorem clean_eq (h : IsNormal comment) : clean comment = comment := by
  rw [← String.toList_inj, clean, String.toList_ofList, cleanChars, h.unpadded_toList.trim_eq]
  by_cases hempty : comment = ""
  · rw [hempty]
    rfl
  · have htrimmed : ∀ line ∈ splitOn '\n' comment.toList, trim line = line :=
      fun line hline ↦ (h.unpadded line hline).trim_eq
    rw [h.lineChars_eq hempty, List.map_congr_left htrimmed, List.map_id', joinWith_splitOn]

end IsNormal

/-- A clean comment is in normal form, cleaning it again changes nothing, and with line feeds between
them its lines give it back. -/
theorem clean_normalizes (s : String) :
    IsNormal (clean s) ∧ clean (clean s) = clean s ∧
      "\n".intercalate (lines (clean s)) = clean s := by
  have hnormal := isNormal_clean s
  refine ⟨hnormal, hnormal.clean_eq, ?_⟩
  have hlines : (lines (clean s)).map String.toList = lineChars (clean s).toList := by
    rw [lines, List.map_map]
    exact (List.map_congr_left fun line _ ↦ String.toList_ofList).trans (List.map_id _)
  have hlineFeed : "\n".toList = ['\n'] := by decide
  rw [← String.toList_inj, String.toList_intercalate, hlines, hlineFeed,
    ← joinWith_eq_intercalate, hnormal.joinWith_lineChars]

/-- Blank lines between others are kept, and the breaks become line feeds. -/
example : clean " \r\nA note:\t\u2028\n  in parts.\x1f\r" = "A note:\n\nin parts." := by
  decide +kernel

end Comment

end ClientGen
