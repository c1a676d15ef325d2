import ClientGen.Flattening
import ClientGen.Proofs.Linking

/-!
# How types get their flat names

`Naming` lists all that reaching a type can do to a run. A type that has a flat name keeps it. Any
other gets the name under which it is reached: if that name is free among the types of its kind, the
type owns it, and a message begins its walk while an enum is recorded at once; otherwise the name is
shared, which only a lenient run survives. `reachMessage_naming` and `reachEnum_naming` are the
inversions of the two functions; everything else about naming follows from the five cases.
-/

set_option autoImplicit false
set_option relaxedAutoImplicit false

namespace ClientGen.Flattening

open Declaration

/-- The reports of a claim on a name that a type of the other kind may own. -/
def mixedReports (c : Context) (name fullName : String) (other : Option String) : List Report :=
  (other.map fun other ↦ Report.mixed name c.service other fullName).toList

namespace State

/-- A type takes a name that an owner of its kind has already. -/
def share (c : Context) (kind : TypeKind) (owner fullName name : String) (s : State) : State :=
  { s with
    given := s.given ++ [(fullName, name)]
    events := s.events ++ [.collision (.shared kind name c.service owner fullName)] }

/-- A message takes a name that no message owns. -/
def ownMessage (c : Context) (fullName name : String) (s : State) : State :=
  { s with
    given := s.given ++ [(fullName, name)]
    visits := s.visits ++ [⟨name, fullName, s.messages.length⟩]
    events := s.events ++ (mixedReports c name fullName (s.enumOwner? name)).map .collision }

/-- An enum takes a name that no enum owns. -/
def ownEnum (c : Context) (fullName name : String) (record : Record.Enum) (s : State) : State :=
  { s with
    given := s.given ++ [(fullName, name)]
    enumOwners := s.enumOwners ++ [(name, fullName)]
    enums := s.enums ++ [record]
    events := s.events ++
      (mixedReports c name fullName ((s.visit? name).map Visit.owner)).map .collision }

end State

/-- What reaching a type from the message named `around`, or from a call, does: the flat name of the
type, the frame of its walk if that begins now, and the state after it. -/
inductive Naming (c : Context) (s : State) :
    NamedType → Option String → String → Option Frame → State → Prop
  | known {type : NamedType} {around : Option String} {name : String}
      (named : s.flatName? type.fullName = some name) : Naming c s type around name none s
  | message {message : Message} {around : Option String}
      (fresh : s.flatName? message.fullName = none)
      (free : s.visit? (flatName message.name message.parent around) = none)
      (quiet : c.strict → s.enumOwner? (flatName message.name message.parent around) = none) :
      Naming c s (.message message) around (flatName message.name message.parent around)
        (some (.start (flatName message.name message.parent around) message))
        (s.ownMessage c message.fullName (flatName message.name message.parent around))
  | sharedMessage {message : Message} {around : Option String} {visit : Visit}
      (fresh : s.flatName? message.fullName = none)
      (taken : s.visit? (flatName message.name message.parent around) = some visit)
      (lenient : c.strict = false) :
      Naming c s (.message message) around (flatName message.name message.parent around) none
        (s.share c .message visit.owner message.fullName
          (flatName message.name message.parent around))
  | enum {enum : Enum} {around : Option String}
      (fresh : s.flatName? enum.fullName = none)
      (free : s.enumOwner? (flatName enum.name enum.parent around) = none)
      (quiet : c.strict → s.visit? (flatName enum.name enum.parent around) = none) :
      Naming c s (.enum enum) around (flatName enum.name enum.parent around) none
        (s.ownEnum c enum.fullName (flatName enum.name enum.parent around)
          (enumRecord (flatName enum.name enum.parent around) enum))
  | sharedEnum {enum : Enum} {around : Option String} {owner : String}
      (fresh : s.flatName? enum.fullName = none)
      (taken : s.enumOwner? (flatName enum.name enum.parent around) = some owner)
      (lenient : c.strict = false) :
      Naming c s (.enum enum) around (flatName enum.name enum.parent around) none
        (s.share c .enum owner enum.fullName (flatName enum.name enum.parent around))

/-! ### Inversion of reaching -/

namespace Context

variable {c : Context} {s t : State} {fullName name : String}

theorem report_eq_ok {r : Report} (h : c.report r s = .ok t) :
    c.strict = false ∧ t = s.note (.collision r) := by
  unfold report at h
  split_ifs at h with hstrict
  · cases h
  · cases h
    exact ⟨by simpa using hstrict, rfl⟩

theorem claimMessage_eq_ok (h : c.claimMessage fullName name s = .ok t) :
    (∃ visit, s.visit? name = some visit ∧ c.strict = false ∧
        t = s.share c .message visit.owner fullName name) ∨
      s.visit? name = none ∧ (c.strict → s.enumOwner? name = none) ∧
        t = s.ownMessage c fullName name := by
  unfold claimMessage at h
  split at h
  · next visit htaken =>
    obtain ⟨hlenient, rfl⟩ := report_eq_ok h
    exact .inl ⟨visit, htaken, hlenient, rfl⟩
  · next hfree =>
    refine .inr ⟨hfree, ?_⟩
    dsimp only [State.enumOwner?, State.give] at h
    unfold State.ownMessage State.enumOwner?
    split at h
    · next other hother =>
      obtain ⟨hlenient, rfl⟩ := report_eq_ok h
      exact ⟨fun hstrict ↦ by simp [hlenient] at hstrict, by
        rw [hother]
        rfl⟩
    · next hother =>
      cases h
      exact ⟨fun _ ↦ hother, by simp [hother, mixedReports]⟩

theorem claimEnum_eq_ok (h : c.claimEnum fullName name s = .ok t) :
    (∃ owner, s.enumOwner? name = some owner ∧ c.strict = false ∧
        t = s.share c .enum owner fullName name) ∨
      s.enumOwner? name = none ∧ (c.strict → s.visit? name = none) ∧
        ∀ record, { t with enums := t.enums ++ [record] } = s.ownEnum c fullName name record := by
  unfold claimEnum at h
  split at h
  · next owner htaken =>
    obtain ⟨hlenient, rfl⟩ := report_eq_ok h
    exact .inl ⟨owner, htaken, hlenient, rfl⟩
  · next hfree =>
    refine .inr ⟨hfree, ?_⟩
    dsimp only [State.visit?, State.give] at h
    unfold State.ownEnum State.visit?
    split at h
    · next visit hvisit =>
      obtain ⟨hlenient, rfl⟩ := report_eq_ok h
      exact ⟨fun hstrict ↦ by simp [hlenient] at hstrict, fun record ↦ by
        rw [hvisit]
        rfl⟩
    · next hvisit =>
      cases h
      exact ⟨fun _ ↦ hvisit, fun record ↦ by simp [hvisit, mixedReports]⟩

theorem reachMessage_naming {message : Message} {around : Option String} {frame : Option Frame}
    (h : c.reachMessage message around s = .ok (name, frame, t)) :
    Naming c s (.message message) around name frame t := by
  unfold reachMessage at h
  split at h
  · next hnamed =>
    cases h
    exact .known hnamed
  · next hfresh =>
    obtain ⟨u, hclaim, hu⟩ := exists_of_map_eq_ok h
    cases hu
    rcases claimMessage_eq_ok hclaim with ⟨visit, htaken, hlenient, rfl⟩ | ⟨hfree, hquiet, rfl⟩
    · rw [htaken]
      exact .sharedMessage hfresh htaken hlenient
    · rw [hfree]
      exact .message hfresh hfree hquiet

theorem reachEnum_naming {enum : Enum} {around : Option String}
    (h : c.reachEnum enum around s = .ok (name, t)) :
    Naming c s (.enum enum) around name none t := by
  unfold reachEnum at h
  split at h
  · next hnamed =>
    cases h
    exact .known hnamed
  · next hfresh =>
    obtain ⟨u, hclaim, hu⟩ := exists_of_map_eq_ok h
    cases hu
    rcases claimEnum_eq_ok hclaim with ⟨owner, htaken, hlenient, rfl⟩ | ⟨hfree, hquiet, hown⟩
    · rw [htaken]
      simpa using Naming.sharedEnum hfresh htaken hlenient
    · rw [hfree]
      simp only [Option.isSome_none, Bool.false_eq_true, ↓reduceIte, hown]
      exact .enum hfresh hfree hquiet

end Context

end ClientGen.Flattening
