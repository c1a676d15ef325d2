import ClientGen.Proofs.Flattening.Table

/-!
# How long a walk lasts

A step of a walk spends what the walk has left. `State.budget` counts the fields and frames that are
still to be finished and, for each message without a flat name, the steps that its walk would take.
A message is walked when it is named, so that its steps move from the one part to the other, and
every step lowers the budget (`Advance.budget_lt`). Draining is therefore that many steps
(`drain_eq_steps`), a recursion on a number.
-/

set_option autoImplicit false
set_option relaxedAutoImplicit false

namespace ClientGen

open Declaration

/-- The steps that the walk of a type takes: one for each field of a message, and one to finish. -/
def Declaration.NamedType.cost : NamedType → Nat
  | message declaration => declaration.fields.length + 1
  | enum _ => 0

/-- The steps that the walks of all types take. -/
def Schema.cost (schema : Schema) : Nat :=
  schema.types.foldr (fun type rest ↦ type.cost + rest) 0

namespace Flattening

/-- The steps that are left to a frame. -/
def Frame.cost (frame : Frame) : Nat :=
  frame.pending.length + 1

namespace State

/-- The steps that a type without a flat name would take. -/
def reserveOf (s : State) (type : NamedType) : Nat :=
  if (s.flatName? type.fullName).isSome then 0 else type.cost

/-- The steps that the types of a list would take that have no flat name. -/
def reserveOver (s : State) (types : List NamedType) : Nat :=
  types.foldr (fun type rest ↦ s.reserveOf type + rest) 0

/-- The steps that the types without a flat name would take. -/
def reserve (schema : Schema) (s : State) : Nat :=
  s.reserveOver schema.types

/-- A bound on the steps that are left to a walk. -/
def budget (schema : Schema) (s : State) : Nat :=
  s.reserve schema + s.work

variable {schema : Schema} {s t : State}

theorem work_append (frame : Option Frame) (rest : List Frame) :
    ({ s with stack := frame.toList ++ rest }).work =
      (frame.map Frame.cost).getD 0 + ({ s with stack := rest }).work := by
  cases frame with
  | none => simp
  | some frame => simp [work, Frame.cost]

/-- Naming more types leaves less in reserve. -/
theorem reserveOf_le (h : ∀ fullName, (s.flatName? fullName).isSome →
    (t.flatName? fullName).isSome) (type : NamedType) : t.reserveOf type ≤ s.reserveOf type := by
  by_cases hs : (s.flatName? type.fullName).isSome
  · simp [reserveOf, h _ hs]
  · rw [reserveOf, reserveOf, if_neg hs]
    split_ifs
    · exact Nat.zero_le _
    · exact Nat.le_refl _

theorem reserveOver_le (h : ∀ fullName, (s.flatName? fullName).isSome →
    (t.flatName? fullName).isSome) (types : List NamedType) :
    t.reserveOver types ≤ s.reserveOver types := by
  induction types with
  | nil => exact Nat.le_refl _
  | cons type rest ih => exact Nat.add_le_add (reserveOf_le h type) ih

/-- Naming a type releases its steps from the reserve. -/
theorem reserveOver_add_cost_le {types : List NamedType} {type : NamedType}
    (h : ∀ fullName, (s.flatName? fullName).isSome → (t.flatName? fullName).isSome)
    (hmem : type ∈ types) (hs : s.flatName? type.fullName = none)
    (ht : (t.flatName? type.fullName).isSome) :
    t.reserveOver types + type.cost ≤ s.reserveOver types := by
  induction types with
  | nil => cases hmem
  | cons first rest ih =>
    simp only [reserveOver, List.foldr_cons]
    rcases List.mem_cons.mp hmem with rfl | hmem
    · have hrest : t.reserveOver rest ≤ s.reserveOver rest := reserveOver_le h rest
      have hnamed : t.reserveOf type = 0 := if_pos ht
      have hunnamed : s.reserveOf type = type.cost := by simp [reserveOf, hs]
      unfold reserveOver at hrest
      omega
    · have hfirst := reserveOf_le h first
      have hrest : t.reserveOver rest + type.cost ≤ s.reserveOver rest := ih hmem
      unfold reserveOver at hrest
      omega

/-- While a message is being walked, the budget is not spent. -/
theorem budget_pos (schema : Schema) (hstack : s.stack ≠ []) : 0 < s.budget schema := by
  obtain ⟨top, rest, hs⟩ := List.exists_cons_of_ne_nil hstack
  have hwork : 0 < s.work := by
    rw [work, hs, List.foldr_cons]
    omega
  exact Nat.add_pos_right _ hwork

end State

variable {c : Context} {s t : State}

/-! ### Every step spends -/

/-- What reaching a type begins is paid from the reserve. -/
theorem Naming.reserve_le {type : NamedType} {around : Option String} {name : String}
    {frame : Option Frame} (h : Naming c s type around name frame t)
    (howner : c.schema.owner? type.fullName = some type) :
    t.reserve c.schema + (frame.map Frame.cost).getD 0 ≤ s.reserve c.schema := by
  have hnamed (fullName : String) : (s.flatName? fullName).isSome → (t.flatName? fullName).isSome :=
    State.isSome_flatName?_of_grows h.given_grows
  have hpaid (hfresh : s.flatName? type.fullName = none) :
      t.reserve c.schema + type.cost ≤ s.reserve c.schema :=
    State.reserveOver_add_cost_le hnamed (Schema.mem_types_of_owner? howner) hfresh
      (Option.isSome_iff_exists.mpr ⟨_, h.flatName?_eq⟩)
  cases h with
  | message hfresh => exact hpaid hfresh
  | known => exact State.reserveOver_le hnamed _
  | sharedMessage => exact State.reserveOver_le hnamed _
  | enum => exact State.reserveOver_le hnamed _
  | sharedEnum => exact State.reserveOver_le hnamed _

theorem Targeting.reserve_le {field : Field} {around : String} {target : Target}
    {frame : Option Frame} (h : Targeting c s field around target frame t) :
    t.reserve c.schema + (frame.map Frame.cost).getD 0 ≤ s.reserve c.schema := by
  cases h with
  | scalar => exact Nat.le_refl _
  | timestamp => exact Nat.le_refl _
  | named hreferent _ hnaming => exact hnaming.reserve_le (Schema.owner?_of_referent? hreferent)

theorem Advance.budget_lt (h : Advance c s t) : t.budget c.schema < s.budget c.schema := by
  cases h with
  | @finish top rest hstack hdone =>
    have hwork : s.work = top.cost + ({ s with stack := rest } : State).work := by
      simp [State.work, hstack, Frame.cost]
    have hcost : 0 < top.cost := Nat.succ_pos _
    change s.reserve c.schema + ({ s with stack := rest } : State).work < _
    unfold State.budget
    omega
  | @field top rest field subject pending target frame u hstack hpending _ htargeting =>
    have hreserve := htargeting.reserve_le
    have hwork : s.work = top.cost + ({ s with stack := rest } : State).work := by
      simp [State.work, hstack, Frame.cost]
    have hcost : top.cost = pending.length + 1 + 1 := by simp [Frame.cost, hpending]
    rw [State.budget, State.work_append]
    change u.reserve c.schema + ((frame.map Frame.cost).getD 0 + (pending.length + 1 +
      ({ s with stack := rest } : State).work)) < _
    unfold State.budget
    omega

namespace Context

/-- Repeats a step. -/
def steps (c : Context) : Nat → State → Except Halt State
  | 0, s => .ok s
  | n + 1, s => c.step s >>= c.steps n

theorem steps_idle (hidle : s.stack = []) (n : Nat) : c.steps n s = .ok s := by
  induction n with
  | zero => rfl
  | succ n ih =>
    have hstep : c.step s = .ok s := by simp [step, hidle]
    rw [steps, hstep]
    exact ih

/-- Draining takes no more steps than the budget. -/
theorem drain_eq_steps {n : Nat} (h : s.budget c.schema ≤ n) : c.drain s = c.steps n s := by
  induction s using drain.induct c generalizing n with
  | case1 s hidle => rw [drain_idle hidle, steps_idle hidle]
  | case2 s hstack halt hstep =>
    obtain ⟨m, rfl⟩ := Nat.exists_eq_succ_of_ne_zero
      (Nat.ne_of_gt (Nat.lt_of_lt_of_le (State.budget_pos c.schema hstack) h))
    rw [drain_busy hstack, steps, hstep]
    rfl
  | case3 s hstack u hstep ih =>
    have hlt := (step_advance hstack hstep).budget_lt
    obtain ⟨m, rfl⟩ := Nat.exists_eq_succ_of_ne_zero
      (Nat.ne_of_gt (Nat.lt_of_lt_of_le (State.budget_pos c.schema hstack) h))
    rw [drain_busy hstack, steps, hstep]
    exact ih (Nat.le_of_lt_succ (Nat.lt_of_lt_of_le hlt h))

/-- Draining in a form that evaluates. -/
theorem drain_eq (c : Context) : c.drain = fun s ↦ c.steps (s.budget c.schema) s :=
  funext fun _ ↦ drain_eq_steps (Nat.le_refl _)

end Context

end Flattening

end ClientGen
