import ClientGen.Declaration.Linking
import ClientGen.Proofs.Path
import ClientGen.Proofs.Results
import ClientGen.Selection

/-!
# Which files a selection picks

A request picks the first file that answers it, and a selection has the services of the picked
files, in the order of the requests (`services_eq_ok_iff`). A file answers to its own name, and to
what follows a slash in it. So the first file of exactly the requested name is picked just if no
file in front of it ends in a slash and that name (`exact_picked_iff`), which is not so in
`Imports`, where an imported file comes first. A request without a slash is answered by the files of
which it is the last name (`answers_iff_baseName_eq`), so that no file answers two such requests
(`services_of_plain`).
-/

set_option autoImplicit false
set_option relaxedAutoImplicit false

namespace ClientGen

open Declaration

/-- The last part of the name of a file, between slashes. -/
def Declaration.File.baseName (file : File) : String :=
  String.ofList ((Path.parts file.name).getLastD [])

variable {files : List File} {requests : List String} {selected : List Service}

namespace Selection

/-! ### The first of its kind -/

/-- The first element of a list with a property, and its position. -/
structure FirstSuch {α : Type} (l : List α) (P : α → Prop) (pick : α × Nat) : Prop where
  getElem?_eq : l[pick.2]? = some pick.1
  holds : P pick.1
  first : ∀ i < pick.2, ∀ a, l[i]? = some a → ¬P a

namespace FirstSuch

variable {α : Type} {l : List α} {P Q : α → Prop} {pick other : α × Nat}

theorem le (h : FirstSuch l P pick) {i : Nat} {a : α} (ha : l[i]? = some a) (hP : P a) :
    pick.2 ≤ i := by
  by_contra hlt
  exact h.first i (Nat.lt_of_not_le hlt) a ha hP

theorem unique (h : FirstSuch l P pick) (hother : FirstSuch l P other) : pick = other := by
  have hposition : pick.2 = other.2 :=
    Nat.le_antisymm (h.le hother.getElem?_eq hother.holds) (hother.le h.getElem?_eq h.holds)
  have hpick := h.getElem?_eq
  rw [hposition, hother.getElem?_eq] at hpick
  exact Prod.ext (Option.some.inj hpick).symm hposition

/-- The first element with one property is the first with a weaker one, just if none in front of it
has the weaker one. -/
theorem iff_of_imp (h : FirstSuch l P pick) (himp : ∀ a, P a → Q a) :
    FirstSuch l Q pick ↔ ∀ i < pick.2, ∀ a, l[i]? = some a → ¬Q a :=
  ⟨FirstSuch.first, fun hfirst ↦ ⟨h.getElem?_eq, himp _ h.holds, hfirst⟩⟩

theorem congr (h : FirstSuch l P pick) (hiff : ∀ a, P a ↔ Q a) : FirstSuch l Q pick where
  getElem?_eq := h.getElem?_eq
  holds := (hiff _).mp h.holds
  first := fun i hi a ha hQ ↦ h.first i hi a ha ((hiff a).mpr hQ)

end FirstSuch

theorem find?_eq_some_iff_firstSuch {α : Type} {l : List α} {p : α → Bool} {a : α} :
    l.find? p = some a ↔ ∃ position, FirstSuch l (fun a ↦ p a = true) (a, position) := by
  rw [List.find?_eq_some_iff_getElem]
  constructor
  · rintro ⟨hp, i, hi, rfl, hfirst⟩
    refine ⟨i, List.getElem?_eq_getElem hi, hp, fun j hj b hb hpb ↦ ?_⟩
    obtain ⟨hlt, rfl⟩ := List.getElem?_eq_some_iff.mp hb
    simpa [hpb] using hfirst j hj
  · rintro ⟨i, hget, hp, hfirst⟩
    obtain ⟨hi, hget⟩ := List.getElem?_eq_some_iff.mp hget
    refine ⟨hp, i, hi, hget, fun j hj ↦ ?_⟩
    simpa using hfirst j hj _ (List.getElem?_eq_getElem (Nat.lt_trans hj hi))

/-! ### Files and requests -/

section Answers

variable {fileName request : String} {file : File}

theorem answers_iff : answers fileName request ↔
    fileName = request ∨ ('/' :: request.toList) <:+ fileName.toList := by
  simp [answers]

/-- Assumes: a request without a slash. It is answered by the paths that end in it. -/
theorem answers_iff_endsIn (hplain : '/' ∉ request.toList) :
    answers fileName request ↔ Path.EndsIn fileName.toList request.toList := by
  rw [answers_iff, Path.EndsIn, and_iff_right hplain, String.toList_inj]
  refine or_congr_right ⟨?_, ?_⟩
  · rintro ⟨front, hfront⟩
    exact ⟨front, hfront.symm⟩
  · rintro ⟨front, hfront⟩
    exact ⟨front, hfront.symm⟩

theorem baseName_eq_of_endsIn {name : List Char} (h : Path.EndsIn file.name.toList name) :
    file.baseName = String.ofList name := by
  obtain ⟨outer, hparts⟩ := Path.exists_parts_of_endsIn h
  simp [File.baseName, hparts]

/-- Assumes: a request without a slash. It is answered by the files of which it is the last
name. -/
theorem answers_iff_baseName_eq (hplain : '/' ∉ request.toList) :
    answers file.name request ↔ file.baseName = request := by
  rw [answers_iff_endsIn hplain]
  constructor
  · intro hends
    rw [baseName_eq_of_endsIn hends, String.ofList_toList]
  · rintro rfl
    obtain ⟨name, hends⟩ := Path.exists_endsIn file.name.toList
    rw [baseName_eq_of_endsIn hends, String.toList_ofList]
    exact hends

end Answers

/-! ### Selections -/

/-- A request picks the first file that answers it. -/
def Picks (files : List File) (request : String) (pick : File × Nat) : Prop :=
  FirstSuch files (fun file ↦ answers file.name request) pick

/-- A selection has the services of the files that its requests pick. -/
theorem services_eq_ok_iff : services files requests = .ok selected ↔
    ∃ picks, List.Forall₂ (Picks files) requests picks ∧
      selected = picks.flatMap fun pick ↦ pick.1.services := by
  induction requests generalizing selected with
  | nil =>
    constructor
    · intro h
      cases h
      exact ⟨[], .nil, rfl⟩
    · rintro ⟨picks, hpicks, rfl⟩
      cases hpicks
      rfl
  | cons request rest ih =>
    unfold services
    constructor
    · intro h
      split at h
      · cases h
      · next file hfile =>
        obtain ⟨position, hpick⟩ := find?_eq_some_iff_firstSuch.mp hfile
        cases hrest : services files rest with
        | error missing => simp [hrest, Except.map] at h
        | ok more =>
          rw [hrest] at h
          cases h
          obtain ⟨picks, hpicks, rfl⟩ := ih.mp hrest
          exact ⟨(file, position) :: picks, .cons hpick hpicks, rfl⟩
    · rintro ⟨picks, hpicks, rfl⟩
      obtain ⟨⟨file, position⟩, others, hpick, hothers, rfl⟩ :=
        List.forall₂_cons_left_iff.mp hpicks
      have hfile : file? files request = some file :=
        find?_eq_some_iff_firstSuch.mpr ⟨position, hpick⟩
      rw [hfile]
      dsimp only
      rw [ih.mpr ⟨others, hothers, rfl⟩]
      rfl

/-- A selection fails at the first request that no file answers. -/
theorem services_eq_error_iff {missing : MissingFile} :
    services files requests = .error missing ↔
      ∃ before after, requests = before ++ missing.request :: after ∧
        (∀ request ∈ before, ∃ file ∈ files, answers file.name request) ∧
        (∀ file ∈ files, ¬answers file.name missing.request) ∧
        missing.found = files.map fun file ↦ file.name := by
  induction requests with
  | nil => simp [services]
  | cons request rest ih =>
    unfold services
    split
    · next hnone =>
      have hunanswered : ∀ file ∈ files, ¬answers file.name request := List.find?_eq_none.mp hnone
      constructor
      · intro h
        cases h
        exact ⟨[], rest, rfl, by simp, hunanswered, rfl⟩
      · rintro ⟨before, after, hsplit, hanswered, -, hfound⟩
        cases before with
        | nil =>
          obtain ⟨rfl, -⟩ := List.cons.inj hsplit
          rw [← hfound]
        | cons first before =>
          obtain ⟨rfl, -⟩ := List.cons.inj hsplit
          obtain ⟨file, hfile, hanswer⟩ := hanswered request List.mem_cons_self
          exact absurd hanswer (hunanswered file hfile)
    · next file hfile =>
      have hanswer : answers file.name request :=
        List.find?_some (p := fun file : File ↦ answers file.name request) hfile
      have hmem : file ∈ files := List.mem_of_find?_eq_some hfile
      have hrest : (services files rest).map (file.services ++ ·) = .error missing ↔
          services files rest = .error missing := by
        cases services files rest <;> simp [Except.map]
      rw [hrest, ih]
      constructor
      · rintro ⟨before, after, rfl, hanswered, hothers⟩
        refine ⟨request :: before, after, rfl, ?_, hothers⟩
        exact List.forall_mem_cons.mpr ⟨⟨file, hmem, hanswer⟩, hanswered⟩
      · rintro ⟨before, after, hsplit, hanswered, hunanswered, hfound⟩
        cases before with
        | nil =>
          obtain ⟨rfl, -⟩ := List.cons.inj hsplit
          exact absurd hanswer (hunanswered file hmem)
        | cons first before =>
          obtain ⟨rfl, rfl⟩ := List.cons.inj hsplit
          exact ⟨before, after, rfl, (List.forall_mem_cons.mp hanswered).2, hunanswered, hfound⟩

/-- A selection returns just if every request is answered. -/
theorem returns_services_iff : Returns (services files requests) ↔
    ∀ request ∈ requests, ∃ file ∈ files, answers file.name request := by
  cases h : services files requests with
  | ok selected =>
    refine iff_of_true ⟨selected, rfl⟩ fun request hrequest ↦ ?_
    obtain ⟨picks, hpicks, -⟩ := services_eq_ok_iff.mp h
    have hflip : List.Forall₂ (flip (Picks files)) picks requests := hpicks.flip
    obtain ⟨pick, -, hpick⟩ := exists_mem_of_forall₂ hflip hrequest
    exact ⟨pick.1, List.mem_of_getElem? hpick.getElem?_eq, hpick.holds⟩
  | error missing =>
    obtain ⟨before, after, rfl, -, hunanswered, -⟩ := services_eq_error_iff.mp h
    refine iff_of_false (fun ⟨_, hok⟩ ↦ nomatch hok) fun hall ↦ ?_
    obtain ⟨file, hfile, hanswer⟩ := hall missing.request (by simp)
    exact hunanswered file hfile hanswer

/-- A selection has the services of one file for each request. Where a file has exactly the
requested name, the first of these is picked just if no file in front of it has a name that ends in
a slash and the request. -/
theorem exact_picked_iff (h : services files requests = .ok selected) :
    ∃ picks, selected = (picks.flatMap fun pick ↦ pick.1.services) ∧
      List.Forall₂ (fun request pick ↦ Picks files request pick ∧
        ∀ exact, FirstSuch files (fun file ↦ file.name = request) exact →
          (pick = exact ↔ ∀ i < exact.2, ∀ file, files[i]? = some file →
            ¬('/' :: request.toList) <:+ file.name.toList)) requests picks := by
  obtain ⟨picks, hpicks, rfl⟩ := services_eq_ok_iff.mp h
  refine ⟨picks, rfl, hpicks.imp fun request pick hpick ↦ ⟨hpick, fun exact hexact ↦ ?_⟩⟩
  have hanswers : Picks files request exact ↔
      ∀ i < exact.2, ∀ file, files[i]? = some file → ¬answers file.name request :=
    hexact.iff_of_imp fun file hname ↦ answers_iff.mpr (.inl hname)
  constructor
  · rintro rfl i hi file hfile hsuffix
    exact hanswers.mp hpick i hi file hfile (answers_iff.mpr (.inr hsuffix))
  · intro hnone
    refine hpick.unique (hanswers.mpr fun i hi file hfile hanswer ↦ ?_)
    rcases answers_iff.mp hanswer with hname | hsuffix
    · exact hexact.first i hi file hfile hname
    · exact hnone i hi file hfile hsuffix

end Selection

namespace Imports

/-- The descriptors of two files, the first of which is imported from a directory by the second, and
of a third one. -/
def descriptors : List Descriptor.File :=
  [{ name := "common/api.proto", package := "common", services := [{ name := "Common" }] },
   { name := "api.proto", package := "api", services := [{ name := "Api" }] },
   { name := "items.proto", package := "items", services := [{ name := "Items" }] }]

/-- The imported file. -/
def common : File :=
  ⟨"common/api.proto", "common", [], [], [⟨"Common", "", "common/api.proto", []⟩]⟩

/-- The file that imports. -/
def api : File :=
  ⟨"api.proto", "api", [], [], [⟨"Api", "", "api.proto", []⟩]⟩

/-- The third file. -/
def items : File :=
  ⟨"items.proto", "items", [], [], [⟨"Items", "", "items.proto", []⟩]⟩

/-- The linked files. -/
def schema : Schema :=
  ⟨[common, api, items]⟩

theorem services_eq : Selection.services schema.files ["api.proto", "items.proto"] =
    .ok (common.services ++ items.services) := by
  rfl

theorem api_exact :
    Selection.FirstSuch schema.files (fun file ↦ file.name = "api.proto") (api, 1) where
  getElem?_eq := rfl
  holds := rfl
  first := by
    intro i hi file hfile
    obtain rfl : i = 0 := by omega
    cases hfile
    decide

theorem items_exact :
    Selection.FirstSuch schema.files (fun file ↦ file.name = "items.proto") (items, 2) where
  getElem?_eq := rfl
  holds := rfl
  first := by
    intro i hi file hfile
    obtain rfl | rfl : i = 0 ∨ i = 1 := by omega
    · cases hfile
      decide
    · cases hfile
      decide

/-- The services of the imported file are selected in place of those of the requested one. -/
theorem api_shadowed :
    Schema.link descriptors = .ok schema ∧
      Selection.FirstSuch schema.files (fun file ↦ file.name = "api.proto") (api, 1) ∧
      Selection.services schema.files ["api.proto"] = .ok common.services ∧
      common.services ≠ api.services :=
  ⟨rfl, api_exact, rfl, by decide⟩

/-- The file for items is picked, but the one that imports is not. -/
theorem items_picked :
    ∃ first second, common.services ++ items.services = first.1.services ++ second.1.services ∧
      first ≠ (api, 1) ∧ second = (items, 2) := by
  obtain ⟨picks, hselected, hpicks⟩ := Selection.exact_picked_iff services_eq
  obtain ⟨first, rest, ⟨-, hfirst⟩, hrest, rfl⟩ := List.forall₂_cons_left_iff.mp hpicks
  obtain ⟨second, rest, ⟨-, hsecond⟩, hnil, rfl⟩ := List.forall₂_cons_left_iff.mp hrest
  cases hnil
  refine ⟨first, second, by simpa using hselected, fun heq ↦ ?_, ?_⟩
  · exact (hfirst _ api_exact).mp heq 0 Nat.one_pos common rfl (by decide)
  · refine (hsecond _ items_exact).mpr fun i hi file hfile ↦ ?_
    obtain rfl | rfl : i = 0 ∨ i = 1 := by omega
    · cases hfile
      decide
    · cases hfile
      decide

end Imports

namespace Selection

/-- Assumes: requests without slashes, of which none is made twice. No file is picked twice. -/
theorem nodup_of_firstSuch {picks : List (File × Nat)} (hdistinct : requests.Nodup)
    (hpicks : List.Forall₂ (fun request pick ↦ FirstSuch files (fun file ↦ file.baseName = request)
      pick) requests picks) : (picks.map Prod.snd).Nodup := by
  have hrequests : requests = picks.map fun pick ↦ pick.1.baseName := by
    rw [← List.map_id requests]
    exact map_eq_map_of_forall₂ hpicks fun request pick hpick ↦ hpick.holds.symm
  have hpositions : ∀ pick ∈ picks, files[pick.2]? = some pick.1 := fun pick hpick ↦ by
    obtain ⟨request, -, hfirst⟩ := exists_mem_of_forall₂ hpicks hpick
    exact hfirst.getElem?_eq
  rw [hrequests, List.Nodup, List.pairwise_map] at hdistinct
  rw [List.Nodup, List.pairwise_map]
  refine hdistinct.imp_of_mem fun {first second} hfirst hsecond hne heq ↦ hne ?_
  -- One position holds one file, which has one last name.
  have hfile := hpositions first hfirst
  rw [heq, hpositions second hsecond] at hfile
  rw [Option.some.inj hfile]

/-- Assumes: requests without slashes, of which none is made twice. A selection returns just if each
request is the last name of a file. It then has all services of one file for each request, in order,
and no file serves two requests; otherwise it fails at the first request that is no last name. -/
theorem services_of_plain (hdistinct : requests.Nodup)
    (hplain : ∀ request ∈ requests, '/' ∉ request.toList) :
    (Returns (services files requests) ↔
        ∀ request ∈ requests, ∃ file ∈ files, file.baseName = request) ∧
      (∀ selected, services files requests = .ok selected → ∃ picks,
        List.Forall₂ (fun request pick ↦ FirstSuch files (fun file ↦ file.baseName = request) pick)
          requests picks ∧ (picks.map Prod.snd).Nodup ∧
          selected = picks.flatMap fun pick ↦ pick.1.services) ∧
      ∀ missing, services files requests = .error missing ↔
        ∃ before after, requests = before ++ missing.request :: after ∧
          (∀ request ∈ before, ∃ file ∈ files, file.baseName = request) ∧
          (∀ file ∈ files, file.baseName ≠ missing.request) ∧
          missing.found = files.map fun file ↦ file.name := by
  have hanswers (request : String) (hrequest : request ∈ requests) (file : File) :
      answers file.name request ↔ file.baseName = request :=
    answers_iff_baseName_eq (hplain request hrequest)
  refine ⟨?_, fun selected hselected ↦ ?_, fun missing ↦ ?_⟩
  · rw [returns_services_iff]
    refine forall₂_congr fun request hrequest ↦ exists_congr fun file ↦ ?_
    rw [hanswers request hrequest file]
  · obtain ⟨picks, hpicks, rfl⟩ := services_eq_ok_iff.mp hselected
    have hnamed : List.Forall₂ (fun request pick ↦
        FirstSuch files (fun file ↦ file.baseName = request) pick) requests picks := by
      refine List.forall₂_iff_get.mpr ⟨hpicks.length_eq, fun i hi hj ↦ ?_⟩
      exact (hpicks.get hi hj).congr (hanswers _ (List.get_mem _ _))
    exact ⟨picks, hnamed, nodup_of_firstSuch hdistinct hnamed, rfl⟩
  · rw [services_eq_error_iff]
    refine exists_congr fun before ↦ exists_congr fun after ↦ and_congr_right fun hsplit ↦ ?_
    have hbefore (request : String) (hrequest : request ∈ before) (file : File) :
        answers file.name request ↔ file.baseName = request :=
      hanswers request (hsplit ▸ List.mem_append_left _ hrequest) file
    have hmissing := hanswers missing.request (by simp [hsplit])
    refine and_congr (forall₂_congr fun request hrequest ↦ exists_congr fun file ↦ ?_) ?_
    · rw [hbefore request hrequest file]
    · simp only [hmissing, ne_eq]

end Selection

/-- Two requests are answered by two files. -/
theorem Imports.requests_answered :
    Returns (Selection.services schema.files ["items.proto", "api.proto"]) ∧
      ∃ picks : List (File × Nat), (picks.map Prod.snd).Nodup ∧
        items.services ++ common.services = picks.flatMap fun pick ↦ pick.1.services := by
  obtain ⟨hreturns, hpicks, -⟩ :=
    @Selection.services_of_plain schema.files ["items.proto", "api.proto"] (by decide) (by decide)
  obtain ⟨picks, -, hnodup, hselected⟩ := hpicks (items.services ++ common.services) rfl
  refine ⟨hreturns.mpr ?_, picks, hnodup, hselected⟩
  decide

end ClientGen
