import ClientGen.Proofs.Path

/-!
# Absolute paths

A name is not empty, no dot, no two dots, and has no slash (`Path.IsName`); an absolute path is
normal if it is made of names. In a normal directory every path stands for a normal one
(`AbsolutePath.IsNormal.absolute`), and a normal path is told by its text
(`AbsolutePath.IsNormal.absolute_text`). A path that is joined to a directory stands for what it
stands for inside that directory (`Path.absolute_join`). So a name that is joined to a directory is
the path of the directory with the name at its end, in whatever way the directory is spelled
(`Path.IsName.absolute_join`), and as text it is the text of the directory, a slash and the name
(`Path.IsName.join_text`).
-/

set_option autoImplicit false
set_option relaxedAutoImplicit false

namespace ClientGen

open Text

namespace Path

/-- A name in a directory: it is neither empty nor one or two dots, and has no slash. -/
structure IsName (name : List Char) : Prop where
  ne_nil : name ≠ []
  ne_dot : name ≠ ['.']
  ne_dots : name ≠ ['.', '.']
  noSlash : '/' ∉ name

theorem isName_iff {name : List Char} :
    IsName name ↔ name ≠ [] ∧ name ≠ ['.'] ∧ name ≠ ['.', '.'] ∧ '/' ∉ name :=
  ⟨fun h ↦ ⟨h.ne_nil, h.ne_dot, h.ne_dots, h.noSlash⟩, fun ⟨a, b, c, d⟩ ↦ ⟨a, b, c, d⟩⟩

instance : DecidablePred IsName :=
  fun _ ↦ decidable_of_iff _ isName_iff.symm

/-! ### Following parts -/

section Descend

variable {names parts : List (List Char)} {name : List Char}

theorem descend_of_isName (h : IsName name) : descend names name = names ++ [name] := by
  rw [descend, if_neg (by simp [h.ne_nil, h.ne_dot]), if_neg h.ne_dots]

theorem foldl_descend_of_empty (h : ∀ part ∈ parts, part = []) :
    parts.foldl descend names = names := by
  induction parts with
  | nil => rfl
  | cons part rest ih =>
    rw [h part List.mem_cons_self]
    exact ih fun other hother ↦ h other (List.mem_cons_of_mem _ hother)

theorem foldl_descend_of_isName (h : ∀ part ∈ parts, IsName part) :
    parts.foldl descend names = names ++ parts := by
  induction parts generalizing names with
  | nil => exact (List.append_nil names).symm
  | cons part rest ih =>
    rw [List.foldl_cons, descend_of_isName (h part List.mem_cons_self),
      ih fun other hother ↦ h other (List.mem_cons_of_mem _ hother), List.append_assoc]
    rfl

/-- Following parts without slashes from names leads to names. -/
theorem isName_of_mem_foldl_descend (hnames : ∀ name ∈ names, IsName name)
    (hparts : ∀ part ∈ parts, '/' ∉ part) : ∀ name ∈ parts.foldl descend names, IsName name := by
  induction parts generalizing names with
  | nil => exact hnames
  | cons part rest ih =>
    refine ih ?_ fun other hother ↦ hparts other (List.mem_cons_of_mem _ hother)
    unfold descend
    split_ifs with hsame hup
    · exact hnames
    · exact fun name hname ↦ hnames name (List.dropLast_subset names hname)
    · intro name hname
      rcases List.mem_append.mp hname with hname | hname
      · exact hnames name hname
      · obtain rfl := List.mem_singleton.mp hname
        simp only [Bool.or_eq_true, decide_eq_true_eq, not_or] at hsame
        exact ⟨hsame.1, hsame.2, hup, hparts name List.mem_cons_self⟩

end Descend

/-! ### Joined paths -/

section Join

variable {outer inner : String}

/-- A relative path is put behind a directory, with a slash between them unless the directory ends
in one or is empty. -/
theorem toList_join (outer : String) (hrelative : isAbsolute inner = false) :
    (outer = "" ∨ (∃ front, outer.toList = front ++ ['/'])) ∧
        (join outer inner).toList = outer.toList ++ inner.toList ∨
      outer ≠ "" ∧ outer.toList.getLast? ≠ some '/' ∧
        (join outer inner).toList = outer.toList ++ '/' :: inner.toList := by
  unfold join
  rw [hrelative, if_neg Bool.false_ne_true]
  split_ifs with hplain
  · refine .inl ⟨?_, String.toList_append ..⟩
    simp only [Bool.or_eq_true, decide_eq_true_eq, List.getLast?_eq_some_iff] at hplain
    exact hplain
  · simp only [Bool.or_eq_true, decide_eq_true_eq, not_or] at hplain
    exact .inr ⟨hplain.1, hplain.2, by simp⟩

theorem join_of_isAbsolute (h : isAbsolute inner = true) : join outer inner = inner := by
  rw [join, if_pos h]

/-- The parts of a joined path are followed one after the other. -/
theorem foldl_descend_join (hrelative : isAbsolute inner = false) (names : List (List Char)) :
    (parts (join outer inner)).foldl descend names =
      (parts inner).foldl descend ((parts outer).foldl descend names) := by
  unfold parts
  rcases toList_join outer hrelative with
    ⟨rfl | ⟨front, hfront⟩, hjoin⟩ | ⟨-, -, hjoin⟩
  · rw [hjoin]
    rfl
  · rw [hjoin, hfront, List.append_assoc, List.singleton_append, splitOn_append_cons,
      splitOn_append_cons, List.foldl_append, List.foldl_append]
    rfl
  · rw [hjoin, splitOn_append_cons, List.foldl_append]

theorem isAbsolute_join (hrelative : isAbsolute inner = false) :
    isAbsolute (join outer inner) = isAbsolute outer := by
  rcases toList_join outer hrelative with ⟨hplain, hjoin⟩ | ⟨hne, -, hjoin⟩
  · by_cases hempty : outer = ""
    · subst hempty
      rwa [isAbsolute, hjoin]
    · obtain ⟨c, cs, hcs⟩ := List.exists_cons_of_ne_nil
        fun h ↦ hempty (String.toList_eq_nil_iff.mp h)
      rw [isAbsolute, isAbsolute, hjoin, hcs]
      rfl
  · obtain ⟨c, cs, hcs⟩ := List.exists_cons_of_ne_nil
      fun h ↦ hne (String.toList_eq_nil_iff.mp h)
    rw [isAbsolute, isAbsolute, hjoin, hcs]
    rfl

theorem isDoubled_iff {path : String} :
    isDoubled path = true ↔
      ∃ rest, path.toList = '/' :: '/' :: rest ∧ rest.head? ≠ some '/' := by
  unfold isDoubled
  split
  · next heq => simp [heq]
  · next rest hrest heq =>
    refine iff_of_true rfl ⟨rest, heq, fun hhead ↦ ?_⟩
    obtain ⟨tail, rfl⟩ := List.head?_eq_some_iff.mp hhead
    exact hrest tail rfl
  · next _ hdoubled =>
    exact iff_of_false Bool.false_ne_true fun ⟨rest, heq, _⟩ ↦ hdoubled rest heq

/-- The cases are on the first characters of the directory, up to the third: in none of them does it
matter what is joined to it. -/
theorem isDoubled_join (hrelative : isAbsolute inner = false) :
    isDoubled (join outer inner) = isDoubled outer := by
  have hhead : inner.toList.head? ≠ some '/' := by simpa [isAbsolute] using hrelative
  have hinner : ∀ rest, inner.toList ≠ '/' :: rest := fun rest heq ↦ hhead (by rw [heq]; rfl)
  rw [Bool.eq_iff_iff, isDoubled_iff, isDoubled_iff]
  rcases toList_join outer hrelative with
    ⟨rfl | ⟨front, hfront⟩, hjoin⟩ | ⟨hne, hlast, hjoin⟩
  · rw [hjoin]
    refine iff_of_false ?_ ?_
    · rintro ⟨rest, heq, -⟩
      exact hinner _ heq
    · rintro ⟨rest, heq, -⟩
      simp at heq
  · rw [hjoin, hfront]
    rcases front with _ | ⟨a, _ | ⟨b, front⟩⟩
    · simp [hinner]
    · simp [hhead]
    · cases front <;> simp
  · rw [hjoin]
    rcases houter : outer.toList with _ | ⟨a, _ | ⟨b, _ | ⟨c, cs⟩⟩⟩
    · exact absurd (String.toList_eq_nil_iff.mp houter) hne
    · have ha : a ≠ '/' := by simpa [houter] using hlast
      simp [ha]
    · have hb : b ≠ '/' := by simpa [houter] using hlast
      simp [hb]
    · simp

/-- A path joined to a directory stands for what it stands for inside the directory. -/
theorem absolute_join (working : AbsolutePath) (outer inner : String) :
    absolute working (join outer inner) = absolute (absolute working outer) inner := by
  cases hinner : isAbsolute inner with
  | true =>
    rw [join_of_isAbsolute hinner, absolute, absolute, if_pos hinner, if_pos hinner]
  | false =>
    unfold absolute
    rw [isAbsolute_join hinner, isDoubled_join hinner, foldl_descend_join hinner, hinner]
    cases isAbsolute outer with
    | true => simp
    | false => simp [foldl_descend_join hinner]

end Join

end Path

/-! ### Normal paths -/

namespace AbsolutePath

/-- A normal path is made of names. -/
def IsNormal (path : AbsolutePath) : Prop :=
  ∀ name ∈ path.names, Path.IsName name

instance : DecidablePred IsNormal :=
  fun path ↦ inferInstanceAs (Decidable (∀ name ∈ path.names, Path.IsName name))

/-- The path of a name in a directory. -/
def child (directory : AbsolutePath) (name : List Char) : AbsolutePath :=
  { directory with names := directory.names ++ [name] }

variable {directory path : AbsolutePath} {name : List Char}

theorem toList_text (path : AbsolutePath) :
    path.text.toList =
      (if path.doubled then ['/', '/'] else ['/']) ++ joinWith ['/'] path.names := by
  rw [text, String.toList_ofList]

/-- The text of an absolute path has a slash in front of each name. -/
theorem utf8ByteSize_text {names : List (List Char)} (hnames : names ≠ []) :
    (AbsolutePath.mk false names).text.utf8ByteSize =
      (names.map fun name ↦ (String.ofList name).utf8ByteSize + 1).sum := by
  have hslash : (String.ofList ['/']).utf8ByteSize = 1 := by decide
  rw [← utf8ByteSize_joinWith hnames, text, if_neg Bool.false_ne_true, String.ofList_append,
    String.utf8ByteSize_append, hslash, Nat.add_comm]

theorem isAbsolute_text (path : AbsolutePath) : Path.isAbsolute path.text = true := by
  rw [Path.isAbsolute, toList_text]
  cases path.doubled <;> rfl

/-- No slash stands in front of the names of a normal path. -/
theorem IsNormal.head?_joinWith (hnormal : path.IsNormal) :
    (joinWith ['/'] path.names).head? ≠ some '/' := by
  cases hnames : path.names with
  | nil => exact nofun
  | cons name rest =>
    have hname : Path.IsName name := hnormal name (by rw [hnames]; exact List.mem_cons_self)
    rw [head?_joinWith_cons _ hname.ne_nil]
    exact fun hhead ↦ hname.noSlash (List.mem_of_mem_head? hhead)

theorem IsNormal.isDoubled_text (hnormal : path.IsNormal) :
    Path.isDoubled path.text = path.doubled := by
  have hhead := hnormal.head?_joinWith
  rw [Bool.eq_iff_iff, Path.isDoubled_iff, toList_text]
  cases path.doubled with
  | true => simpa using hhead
  | false =>
    refine iff_of_false ?_ Bool.false_ne_true
    rintro ⟨rest, heq, -⟩
    have hjoined : joinWith ['/'] path.names = '/' :: rest := List.tail_eq_of_cons_eq heq
    exact hhead (by rw [hjoined]; rfl)

/-- The parts of a normal path are its names, behind empty parts for the slashes in front. -/
theorem IsNormal.parts_text (hnormal : path.IsNormal) :
    ∃ empty, (∀ part ∈ empty, part = []) ∧ Path.parts path.text = empty ++ path.names := by
  rw [Path.parts, toList_text]
  by_cases hnone : path.names = []
  · rw [hnone]
    cases path.doubled
    · exact ⟨[[], []], by simp, rfl⟩
    · exact ⟨[[], [], []], by simp, rfl⟩
  · have hjoined : splitOn '/' (joinWith ['/'] path.names) = path.names :=
      splitOn_joinWith (fun name hname ↦ (hnormal name hname).noSlash) hnone
    cases path.doubled
    · exact ⟨[[]], by simp, by simp [splitOn, hjoined]⟩
    · exact ⟨[[], []], by simp, by simp [splitOn, hjoined]⟩

/-- A normal path is told by its text, in whatever directory it is read. -/
theorem IsNormal.absolute_text (hnormal : path.IsNormal) (working : AbsolutePath) :
    Path.absolute working path.text = path := by
  obtain ⟨empty, hempty, hparts⟩ := hnormal.parts_text
  rw [Path.absolute, if_pos (isAbsolute_text path), hnormal.isDoubled_text, hparts,
    List.foldl_append, Path.foldl_descend_of_empty hempty, Path.foldl_descend_of_isName hnormal,
    List.nil_append]

theorem IsNormal.text_injective {other : AbsolutePath} (hnormal : path.IsNormal)
    (hother : other.IsNormal) (htext : path.text = other.text) : path = other := by
  rw [← hnormal.absolute_text path, htext, hother.absolute_text path]

/-- In a normal directory every path stands for a normal one. -/
theorem IsNormal.absolute (hnormal : directory.IsNormal) (path : String) :
    (Path.absolute directory path).IsNormal := by
  have hparts : ∀ part ∈ Path.parts path, '/' ∉ part := fun _ ↦ notMem_of_mem_splitOn
  unfold Path.absolute
  split
  · exact Path.isName_of_mem_foldl_descend (fun _ hname ↦ absurd hname List.not_mem_nil) hparts
  · exact Path.isName_of_mem_foldl_descend hnormal hparts

/-- The text of a path ends in its last name. -/
theorem endsIn_text {outer : List (List Char)} (hnames : path.names = outer ++ [name])
    (hslash : '/' ∉ name) : Path.EndsIn path.text.toList name := by
  have hroot : Path.EndsIn ((if path.doubled then "//" else "/") ++
      String.ofList (joinWith ['/'] (outer ++ [name]))).toList name :=
    Path.endsIn_rooted (by cases path.doubled <;> simp) outer hslash
  rw [toList_text, hnames]
  cases hdoubled : path.doubled <;> simpa [hdoubled] using hroot

end AbsolutePath

namespace Path

variable {name : String}

theorem IsName.isAbsolute_eq_false (h : IsName name.toList) : isAbsolute name = false := by
  have hhead : name.toList.head? ≠ some '/' := fun hhead ↦
    h.noSlash (List.mem_of_mem_head? hhead)
  simpa [isAbsolute] using hhead

theorem IsName.absolute_eq_child (h : IsName name.toList) (directory : AbsolutePath) :
    absolute directory name = directory.child name.toList := by
  rw [absolute, h.isAbsolute_eq_false, if_neg Bool.false_ne_true, parts,
    splitOn_of_notMem h.noSlash, List.foldl_cons, List.foldl_nil, descend_of_isName h]
  rfl

/-- A name joined to any spelling of a directory stands for the name in that directory. -/
theorem IsName.absolute_join (h : IsName name.toList) (working : AbsolutePath)
    (directory : String) :
    absolute working (join directory name) = (absolute working directory).child name.toList := by
  rw [Path.absolute_join, h.absolute_eq_child]

/-- A path does not end in a slash if it ends in a name. -/
theorem EndsIn.getLast?_ne {cs name : List Char} (h : EndsIn cs name) (hempty : name ≠ []) :
    cs.getLast? ≠ some '/' := by
  obtain ⟨hslash, rfl | ⟨front, rfl⟩⟩ := h
  · exact fun hlast ↦ hslash (List.mem_of_getLast? hlast)
  · rw [List.append_cons, List.getLast?_append_of_ne_nil _ hempty]
    exact fun hlast ↦ hslash (List.mem_of_getLast? hlast)

/-- As text, the path of a name in a directory is the joined one. -/
theorem IsName.join_text (h : IsName name.toList) {directory : AbsolutePath}
    (hnormal : directory.IsNormal) :
    join directory.text name = (directory.child name.toList).text := by
  rw [join, h.isAbsolute_eq_false, if_neg Bool.false_ne_true, ← String.toList_inj,
    AbsolutePath.toList_text (directory.child _), AbsolutePath.child]
  rcases List.eq_nil_or_concat directory.names with hnone | ⟨outer, last, hlast⟩
  · -- The root ends in a slash, so the name follows at once.
    have hroot : directory.text.toList.getLast? = some '/' := by
      rw [AbsolutePath.toList_text, hnone]
      cases directory.doubled <;> rfl
    rw [if_pos (by simp [hroot]), String.toList_append, AbsolutePath.toList_text, hnone]
    simp [joinWith]
  · rw [List.concat_eq_append] at hlast
    have hname : IsName last := hnormal last (by simp [hlast])
    have hends := AbsolutePath.endsIn_text hlast hname.noSlash
    have hempty : directory.text ≠ "" := fun hempty ↦ by
      have habsolute := AbsolutePath.isAbsolute_text directory
      rw [hempty] at habsolute
      exact Bool.false_ne_true habsolute
    rw [if_neg (by simp [hempty, hends.getLast?_ne hname.ne_nil]),
      joinWith_concat (by simp [hlast])]
    simp [AbsolutePath.toList_text]

end Path

end ClientGen
