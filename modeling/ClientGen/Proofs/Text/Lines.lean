import ClientGen.Text.Lines
import ClientGen.Text.Splice
import Mathlib.Data.List.Basic

/-!
# Lines and their breaks

No line of a text has a break in it (`unbroken_of_mem_lineChars`). If parts without breaks are put
together with line feeds, cutting into lines gives the parts back: always if each part is ended by
a line feed (`lineChars_ended`), and if line feeds only stand between them, as long as the last part
is not empty (`lineChars_joinWith`). To exchange the line feeds between parts is to put the parts
together with something else (`replace_joinWith`).
-/

set_option autoImplicit false
set_option relaxedAutoImplicit false

namespace ClientGen.Text

/-- A text has no line break in it. -/
def Unbroken (cs : List Char) : Prop :=
  ∀ c ∈ cs, isLineBreak c = false

instance (cs : List Char) : Decidable (Unbroken cs) :=
  List.decidableBAll (fun c ↦ isLineBreak c = false) cs

variable {cs front line : List Char} {parts : List (List Char)}

theorem Unbroken.nil : Unbroken [] :=
  fun _ h ↦ absurd h List.not_mem_nil

theorem unbroken_cons {c : Char} :
    Unbroken (c :: cs) ↔ isLineBreak c = false ∧ Unbroken cs := by
  simp [Unbroken]

theorem unbroken_append {back : List Char} :
    Unbroken (front ++ back) ↔ Unbroken front ∧ Unbroken back := by
  simp only [Unbroken, List.mem_append, or_imp, forall_and]

theorem Unbroken.lineFeed_notMem (h : Unbroken cs) : '\n' ∉ cs := by
  intro hmem
  exact absurd (h _ hmem) (by decide)

theorem unbroken_joinWith {separator : List Char} (hseparator : Unbroken separator)
    (hparts : ∀ part ∈ parts, Unbroken part) : Unbroken (joinWith separator parts) := by
  induction parts using joinWith.induct with
  | case1 => exact .nil
  | case2 part => exact hparts part (.head _)
  | case3 part parts hparts' ih =>
    rw [joinWith.eq_3 _ _ _ hparts']
    have hpart : Unbroken part := hparts part (.head _)
    have hrest : Unbroken (joinWith separator parts) := ih fun _ h ↦ hparts _ (.tail _ h)
    exact unbroken_append.mpr ⟨unbroken_append.mpr ⟨hpart, hseparator⟩, hrest⟩

/-! ### Cutting into lines -/

/-- A character that is no break goes to the first line. A carriage return is a break, so that
none of the pairs is cut here. -/
theorem lineChars_cons {c : Char} (h : isLineBreak c = false) (rest : List Char) :
    lineChars (c :: rest) = consLine c (lineChars rest) := by
  have hreturn : ∀ after, c = '\r' → rest = '\n' :: after → False := by
    intro _ hc _
    rw [hc] at h
    exact absurd h (by decide)
  rw [lineChars.eq_3 c rest hreturn, h]
  exact if_neg Bool.false_ne_true

/-- A text without breaks in front of a line feed is the first line. -/
theorem lineChars_append_lineFeed (h : Unbroken front) (rest : List Char) :
    lineChars (front ++ ['\n'] ++ rest) = front :: lineChars rest := by
  induction front with
  | nil => rfl
  | cons c front ih =>
    obtain ⟨hc, hfront⟩ := unbroken_cons.mp h
    rw [List.cons_append, List.cons_append, lineChars_cons hc, ih hfront]
    rfl

theorem lineChars_of_unbroken (h : Unbroken cs) (hne : cs ≠ []) : lineChars cs = [cs] := by
  induction cs with
  | nil => exact absurd rfl hne
  | cons c rest ih =>
    obtain ⟨hc, hrest⟩ := unbroken_cons.mp h
    rw [lineChars_cons hc]
    by_cases hempty : rest = []
    · rw [hempty]
      rfl
    · rw [ih hrest hempty]
      rfl

theorem unbroken_of_mem_lineChars (h : line ∈ lineChars cs) : Unbroken line := by
  induction cs using lineChars.induct generalizing line with
  | case1 => exact absurd h List.not_mem_nil
  | case2 rest ih =>
    rcases List.mem_cons.mp h with rfl | hrest
    · exact .nil
    · exact ih hrest
  | case3 c rest hpair hbreak ih =>
    rw [lineChars.eq_3 c rest hpair, if_pos hbreak] at h
    rcases List.mem_cons.mp h with rfl | hrest
    · exact .nil
    · exact ih hrest
  | case4 c rest hpair hbreak ih =>
    have hc : isLineBreak c = false := Bool.eq_false_iff.mpr hbreak
    rw [lineChars_cons hc] at h
    cases hlines : lineChars rest with
    | nil =>
      rw [hlines] at h
      rw [List.mem_singleton.mp h]
      exact unbroken_cons.mpr ⟨hc, .nil⟩
    | cons first others =>
      rw [hlines] at h ih
      rcases List.mem_cons.mp h with rfl | hother
      · exact unbroken_cons.mpr ⟨hc, ih (.head _)⟩
      · exact ih (.tail _ hother)

/-- Lines that are ended by line feeds are the lines of the text they make up. -/
theorem lineChars_ended (hparts : ∀ part ∈ parts, Unbroken part) :
    lineChars (parts.flatMap (· ++ ['\n'])) = parts := by
  induction parts with
  | nil => rfl
  | cons part parts ih =>
    have hrest : lineChars (parts.flatMap (· ++ ['\n'])) = parts :=
      ih fun _ h ↦ hparts _ (.tail _ h)
    rw [List.flatMap_cons, lineChars_append_lineFeed (hparts part (.head _)), hrest]

/-- Lines with line feeds between them are the lines of the text they make up, unless the last of
them is empty. -/
theorem lineChars_joinWith (hparts : ∀ part ∈ parts, Unbroken part)
    (hlast : ∀ last ∈ parts.getLast?, last ≠ []) :
    lineChars (joinWith ['\n'] parts) = parts := by
  induction parts using joinWith.induct with
  | case1 => rfl
  | case2 part => exact lineChars_of_unbroken (hparts part (.head _)) (hlast part rfl)
  | case3 part parts hne ih =>
    have hrest : lineChars (joinWith ['\n'] parts) = parts := by
      refine ih (fun _ h ↦ hparts _ (.tail _ h)) fun last h ↦ hlast last ?_
      rwa [List.getLast?_cons_of_ne_nil hne]
    rw [joinWith.eq_3 _ _ _ hne, lineChars_append_lineFeed (hparts part (.head _)), hrest]

/-- A last character that is no break ends the last line. -/
theorem exists_lineChars_concat {c : Char} (hc : isLineBreak c = false) (cs : List Char) :
    ∃ before line, lineChars (cs ++ [c]) = before ++ [line ++ [c]] := by
  induction cs using lineChars.induct with
  | case1 => exact ⟨[], [], lineChars_cons hc []⟩
  | case2 rest ih =>
    obtain ⟨before, line, hlines⟩ := ih
    refine ⟨[] :: before, line, ?_⟩
    rw [List.cons_append, List.cons_append, lineChars, hlines]
    rfl
  | case3 d rest hpair hbreak ih =>
    obtain ⟨before, line, hlines⟩ := ih
    refine ⟨[] :: before, line, ?_⟩
    have hpair' : ∀ after, d = '\r' → rest ++ [c] = '\n' :: after → False := by
      intro after hd hafter
      cases rest with
      | nil =>
        obtain ⟨rfl, -⟩ := List.cons_eq_cons.mp hafter
        exact absurd hc (by decide)
      | cons e rest =>
        obtain ⟨rfl, -⟩ := List.cons_eq_cons.mp hafter
        exact hpair rest hd rfl
    rw [List.cons_append, lineChars.eq_3 _ _ hpair', if_pos hbreak, hlines]
    rfl
  | case4 d rest hpair hbreak ih =>
    obtain ⟨before, line, hlines⟩ := ih
    rw [List.cons_append, lineChars_cons (Bool.eq_false_iff.mpr hbreak), hlines]
    cases before with
    | nil => exact ⟨[], d :: line, rfl⟩
    | cons first before => exact ⟨(d :: first) :: before, line, rfl⟩

/-! ### Exchanging line feeds -/

/-- To exchange one character is to do so at each place. -/
theorem replace_singleton (p : Char) (new cs : List Char) :
    replace [p] new cs = cs.flatMap fun c ↦ if p = c then new else [c] := by
  change replacePattern p [] new cs = _
  induction cs with
  | nil =>
    rw [replacePattern]
    rfl
  | cons c rest ih =>
    have hdrop : dropPrefix? [p] (c :: rest) = if p = c then some rest else none := by
      simp [dropPrefix?]
    rw [List.flatMap_cons, ← ih, replacePattern]
    by_cases hc : p = c
    · rw [if_pos hc] at hdrop ⊢
      split <;> simp_all
    · rw [if_neg hc] at hdrop ⊢
      split <;> simp_all

theorem replace_of_notMem {p : Char} (h : p ∉ cs) (new : List Char) : replace [p] new cs = cs := by
  have hsame : ∀ c ∈ cs, (if p = c then new else [c]) = [c] := by
    intro c hc
    have hne : p ≠ c := fun heq ↦ h (heq ▸ hc)
    exact if_neg hne
  rw [replace_singleton, List.flatMap_congr hsame, List.flatMap_singleton']

theorem replace_append (p : Char) (new front back : List Char) :
    replace [p] new (front ++ back) = replace [p] new front ++ replace [p] new back := by
  simp only [replace_singleton, List.flatMap_append]

theorem replace_joinWith {p : Char} (hparts : ∀ part ∈ parts, p ∉ part) (new : List Char) :
    replace [p] new (joinWith [p] parts) = joinWith new parts := by
  induction parts using joinWith.induct with
  | case1 => exact replace_singleton p new []
  | case2 part => exact replace_of_notMem (hparts part (.head _)) new
  | case3 part parts hne ih =>
    have hpart : replace [p] new part = part := replace_of_notMem (hparts part (.head _)) new
    have hseparator : replace [p] new [p] = new := by simp [replace_singleton]
    have hrest : replace [p] new (joinWith [p] parts) = joinWith new parts :=
      ih fun _ h ↦ hparts _ (.tail _ h)
    rw [joinWith.eq_3 _ _ _ hne, joinWith.eq_3 _ _ _ hne, replace_append, replace_append, hpart,
      hseparator, hrest]

/-- With something in front of and behind the whole, the separator stands around each part. -/
theorem append_joinWith_append (front back : List Char) (hne : parts ≠ []) :
    front ++ joinWith (back ++ front) parts ++ back = parts.flatMap (front ++ · ++ back) := by
  induction parts using joinWith.induct with
  | case1 => exact absurd rfl hne
  | case2 part => simp [joinWith]
  | case3 part parts hparts ih =>
    rw [joinWith.eq_3 _ _ _ hparts, List.flatMap_cons, ← ih hparts]
    simp only [List.append_assoc]

end ClientGen.Text
