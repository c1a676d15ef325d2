import Mathlib.Data.List.Forall2

/-!
# Results and matched lists

Where a result comes from that was composed of several, what steps that are composed leave of the
state, what lists have in common that are matched item by item, and that sorted names are in order.
-/

set_option autoImplicit false
set_option relaxedAutoImplicit false

namespace ClientGen

/-! ### Results that were composed -/

/-- There is a result, not a failure. -/
def Returns {ε α : Type} (x : Except ε α) : Prop :=
  ∃ a, x = .ok a

namespace Returns

theorem ok {ε α : Type} (a : α) : Returns (.ok a : Except ε α) :=
  ⟨a, rfl⟩

theorem map {ε α β : Type} {x : Except ε α} {f : α → β} (h : Returns x) : Returns (x.map f) := by
  obtain ⟨a, rfl⟩ := h
  exact ⟨f a, rfl⟩

theorem bind {ε α β : Type} {x : Except ε α} {f : α → Except ε β} (h : Returns x)
    (hnext : ∀ a, x = .ok a → Returns (f a)) : Returns (x >>= f) := by
  obtain ⟨a, rfl⟩ := h
  exact hnext a rfl

end Returns

/-- A bound result comes from a result of each part. -/
theorem exists_of_bind_eq_ok {ε α β : Type} {x : Except ε α} {f : α → Except ε β} {b : β}
    (h : x >>= f = .ok b) : ∃ a, x = .ok a ∧ f a = .ok b := by
  cases x with
  | error => cases h
  | ok a => exact ⟨a, rfl, h⟩

theorem eq_mk_of_fst_eq {α β : Type} {run : α × β} {result : α} (h : run.1 = result) :
    run = (result, run.2) := by
  subst h
  rfl

theorem eq_ok_of_mapError_eq_ok {ε ε' α : Type} {x : Except ε α} {f : ε → ε'} {a : α}
    (h : x.mapError f = .ok a) : x = .ok a := by
  cases x with
  | error => cases h
  | ok b =>
    cases h
    rfl

theorem exists_of_mapError_eq_error {ε ε' α : Type} {x : Except ε α} {f : ε → ε'} {failure : ε'}
    (h : x.mapError f = .error failure) : ∃ found, x = .error found ∧ f found = failure := by
  cases x with
  | error found =>
    cases h
    exact ⟨found, rfl, rfl⟩
  | ok => cases h

/-- One more item after a fold. -/
theorem foldlM_concat_eq_ok {ε α β : Type} {f : β → α → Except ε β} {l : List α} {a : α}
    {first before last : β} (h : l.foldlM f first = .ok before) (hlast : f before a = .ok last) :
    (l ++ [a]).foldlM f first = .ok last := by
  rw [List.foldlM_append, h]
  change [a].foldlM f before = .ok last
  rw [List.foldlM_cons, hlast]
  rfl

/-- A list of results comes from a result for each item. -/
theorem forall₂_of_mapM_eq_ok {ε α β : Type} {f : α → Except ε β} {l : List α} {r : List β}
    (h : l.mapM f = .ok r) : List.Forall₂ (fun a b ↦ f a = .ok b) l r := by
  induction l generalizing r with
  | nil =>
    cases h
    exact .nil
  | cons a rest ih =>
    rw [List.mapM_cons] at h
    obtain ⟨b, hb, h⟩ := exists_of_bind_eq_ok h
    obtain ⟨bs, hbs, h⟩ := exists_of_bind_eq_ok h
    cases h
    exact .cons hb (ih hbs)

/-- A bound result is still one when each part keeps its results. -/
theorem bind_eq_ok_of_imp {ε α β : Type} {x y : Except ε α} {f g : α → Except ε β} {b : β}
    (h : x >>= f = .ok b) (hx : ∀ a, x = .ok a → y = .ok a)
    (hf : ∀ a, f a = .ok b → g a = .ok b) : y >>= g = .ok b := by
  obtain ⟨a, ha, hb⟩ := exists_of_bind_eq_ok h
  rw [hx a ha]
  exact hf a hb

/-- A list of results is still one when the function for an item keeps its results. -/
theorem mapM_eq_ok_of_imp {ε α β : Type} {f g : α → Except ε β} {l : List α} {r : List β}
    (h : l.mapM f = .ok r) (himp : ∀ a b, f a = .ok b → g a = .ok b) : l.mapM g = .ok r := by
  induction l generalizing r with
  | nil => exact h
  | cons a rest ih =>
    rw [List.mapM_cons] at h ⊢
    refine bind_eq_ok_of_imp h (himp a) fun b hrest ↦ ?_
    exact bind_eq_ok_of_imp hrest (fun _ ↦ ih) fun _ hlist ↦ hlist

/-- Of two steps that are bound, the second runs where the first ends, unless that fails. -/
theorem run_bind_eq {ε σ α β : Type} (x : ExceptT ε (StateM σ) α) (f : α → ExceptT ε (StateM σ) β)
    (s : σ) : (x >>= f).run.run s = match x.run.run s with
      | (.ok a, t) => (f a).run.run t
      | (.error e, t) => (.error e, t) := by
  rw [ExceptT.run_bind, StateT.run_bind]
  cases hx : x.run.run s with
  | mk result t =>
    cases result with
    | error e => rfl
    | ok a => rfl

/-- A step leaves a property of the state that it had before, whether it returns or fails. -/
def Maintains {ε σ α : Type} (property : σ → Prop) (step : ExceptT ε (StateM σ) α) : Prop :=
  ∀ s, property s → property (step.run.run s).2

namespace Maintains

variable {ε σ α β : Type} {property : σ → Prop}

theorem pure (a : α) : Maintains property (pure a : ExceptT ε (StateM σ) α) :=
  fun _ h ↦ h

theorem throw (failure : ε) : Maintains property (throw failure : ExceptT ε (StateM σ) α) :=
  fun _ h ↦ h

theorem get : Maintains property (get : ExceptT ε (StateM σ) σ) :=
  fun _ h ↦ h

theorem modify {f : σ → σ} (h : ∀ s, property s → property (f s)) :
    Maintains property (modify f : ExceptT ε (StateM σ) PUnit) :=
  h

/-- A step and one that goes on with its result. -/
theorem bind {x : ExceptT ε (StateM σ) α} {f : α → ExceptT ε (StateM σ) β}
    (hx : Maintains property x) (hf : ∀ a, Maintains property (f a)) :
    Maintains property (x >>= f) := by
  intro s h
  have hmiddle := hx s h
  rw [run_bind_eq]
  generalize x.run.run s = outcome at hmiddle
  obtain ⟨result, middle⟩ := outcome
  cases result with
  | error failure => exact hmiddle
  | ok a => exact hf a middle hmiddle

end Maintains

/-! ### Matched lists -/

/-- An item on the right of matched lists has a partner on the left. -/
theorem exists_mem_of_forall₂ {α β : Type} {R : α → β → Prop} {l : List α} {r : List β}
    (h : List.Forall₂ R l r) {b : β} (hb : b ∈ r) : ∃ a ∈ l, R a b := by
  induction h with
  | nil => cases hb
  | cons hab _ ih =>
    rcases List.mem_cons.mp hb with rfl | hb
    · exact ⟨_, List.mem_cons_self, hab⟩
    · obtain ⟨a, ha, hr⟩ := ih hb
      exact ⟨a, List.mem_cons_of_mem _ ha, hr⟩

/-- An item on the left of matched lists has its partner at the same position. -/
theorem exists_getElem?_of_forall₂ {α β : Type} {R : α → β → Prop} {l : List α} {r : List β}
    (h : List.Forall₂ R l r) {i : Nat} {a : α} (ha : l[i]? = some a) :
    ∃ b, r[i]? = some b ∧ R a b := by
  induction h generalizing i with
  | nil => cases ha
  | cons hab _ ih =>
    cases i with
    | zero =>
      cases ha
      exact ⟨_, rfl, hab⟩
    | succ i => exact ih ha

/-- Items that are related, or both missing, are so in each way that follows. -/
theorem rel_imp {α β : Type} {R S : α → β → Prop} {a : Option α} {b : Option β}
    (h : Option.Rel R a b) (himp : ∀ a b, R a b → S a b) : Option.Rel S a b := by
  cases h with
  | none => exact .none
  | some hab => exact .some (himp _ _ hab)

/-- Matched lists have matched items at each position, or neither has one there. -/
theorem rel_getElem?_of_forall₂ {α β : Type} {R : α → β → Prop} {l : List α} {r : List β}
    (h : List.Forall₂ R l r) (i : Nat) : Option.Rel R l[i]? r[i]? := by
  induction h generalizing i with
  | nil => exact .none
  | cons hab _ ih =>
    cases i with
    | zero => exact .some hab
    | succ i => exact ih i

/-- A list of results has at each position what was made there. -/
theorem rel_getElem?_of_mapM_zipIdx {ε α β : Type} {f : α × Nat → Except ε β} {l : List α}
    {r : List β} (h : l.zipIdx.mapM f = .ok r) (i : Nat) :
    Option.Rel (fun a b ↦ f (a, i) = .ok b) l[i]? r[i]? := by
  have hrel := rel_getElem?_of_forall₂ (forall₂_of_mapM_eq_ok h) i
  rw [List.getElem?_zipIdx, Nat.zero_add] at hrel
  generalize l[i]? = a?, r[i]? = b? at hrel ⊢
  cases a? with
  | none =>
    cases hrel with
    | none => exact .none
  | some a =>
    cases hrel with
    | some hab => exact .some hab

/-- A list of results matches the list it was made from, whatever follows from a single result. -/
theorem forall₂_of_mapM_zipIdx {ε α β : Type} {f : α × Nat → Except ε β} {R : α → β → Prop}
    {l : List α} {r : List β} (h : l.zipIdx.mapM f = .ok r)
    (himp : ∀ a i b, f (a, i) = .ok b → R a b) : List.Forall₂ R l r := by
  have hpairs : List.Forall₂ (fun pair b ↦ R pair.1 b) l.zipIdx r :=
    (forall₂_of_mapM_eq_ok h).imp fun ⟨a, i⟩ b ↦ himp a i b
  rwa [← List.forall₂_map_left_iff, List.zipIdx_map_fst] at hpairs

/-- Matched lists have the same images, if matched elements have. -/
theorem map_eq_map_of_forall₂ {α β γ : Type} {R : α → β → Prop} {f : α → γ} {g : β → γ}
    {l : List α} {r : List β} (h : List.Forall₂ R l r) (himage : ∀ a b, R a b → f a = g b) :
    l.map f = r.map g := by
  induction h with
  | nil => rfl
  | cons hab _ ih => rw [List.map_cons, List.map_cons, himage _ _ hab, ih]

/-- Lists with the same images under one function have the same images under another, if the first
tells apart what the second does. -/
theorem map_eq_map_of_map_eq {α β γ δ : Type} {f : α → γ} {f' : β → γ} {g : α → δ} {g' : β → δ}
    {l : List α} {r : List β} (h : l.map f = r.map f')
    (himage : ∀ a ∈ l, ∀ b ∈ r, f a = f' b → g a = g' b) : l.map g = r.map g' := by
  induction l generalizing r with
  | nil =>
    obtain rfl : r = [] := by simpa using h.symm
    rfl
  | cons a rest ih =>
    cases r with
    | nil => simp at h
    | cons b others =>
      rw [List.map_cons, List.map_cons, List.cons.injEq] at h
      have hrest := ih h.2 fun a ha b hb ↦
        himage a (List.mem_cons_of_mem _ ha) b (List.mem_cons_of_mem _ hb)
      rw [List.map_cons, List.map_cons, hrest,
        himage a List.mem_cons_self b List.mem_cons_self h.1]

/-- Lists that are matched in two steps, the second of which still sees the first list. -/
theorem forall₂_of_forall₂_zip {α β γ : Type} {R : α → β → Prop} {S : α × β → γ → Prop}
    {as : List α} {bs : List β} {cs : List γ} (h : List.Forall₂ R as bs)
    (hzip : List.Forall₂ S (as.zip bs) cs) :
    List.Forall₂ (fun a c ↦ ∃ b, R a b ∧ S (a, b) c) as cs := by
  induction h generalizing cs with
  | nil =>
    cases hzip
    exact .nil
  | cons hab _ ih =>
    obtain ⟨c, rest, hc, hrest, rfl⟩ := List.forall₂_cons_left_iff.mp hzip
    exact .cons ⟨_, hab, hc⟩ (ih hrest)

/-! ### Sorted names -/

theorem pairwise_le_mergeSort (names : List String) :
    (names.mergeSort (· ≤ ·)).Pairwise (· ≤ ·) := by
  have hsorted := List.pairwise_mergeSort
    (fun a b c (hab : decide (a ≤ b) = true) (hbc : decide (b ≤ c) = true) ↦
      decide_eq_true (String.le_trans (of_decide_eq_true hab) (of_decide_eq_true hbc)))
    (fun a b ↦ by simpa using String.le_total a b) names
  exact hsorted.imp of_decide_eq_true

/-! ### The last of several items -/

/-- The item that is found from the end is the last of its kind. -/
theorem find?_reverse_eq_some_iff {α : Type} {p : α → Bool} {l : List α} {a : α} :
    l.reverse.find? p = some a ↔
      p a ∧ ∃ before after, l = before ++ a :: after ∧ ∀ later ∈ after, !p later := by
  rw [List.find?_eq_some_iff_append]
  refine and_congr_right fun _ ↦ ⟨?_, ?_⟩
  · rintro ⟨after, before, hsplit, hlater⟩
    refine ⟨before.reverse, after.reverse, ?_, fun later hmem ↦ ?_⟩
    · rw [← List.reverse_reverse l, hsplit]
      simp
    · exact hlater later (List.mem_reverse.mp hmem)
  · rintro ⟨before, after, rfl, hlater⟩
    refine ⟨after.reverse, before.reverse, by simp, fun later hmem ↦ ?_⟩
    exact hlater later (List.mem_reverse.mp hmem)

end ClientGen
