import ClientGen.Proofs.Flattening.Moves
import Mathlib.Data.List.Nodup

/-!
# The table of flat names

The names given so far form a table that only grows. `Tabled` says what it is: each full name stands
in it once and is declared, and each flat name that a message has belongs to one owner, the first
message that was given it, and so for the enums. A strict run gives every flat name once
(`Distinct`), because there a name is only taken while no type at all owns it.
-/

set_option autoImplicit false
set_option relaxedAutoImplicit false

namespace ClientGen.Flattening

open Declaration Relation

/-- The first declaration, among those that `find?` knows, that a table gives a flat name. -/
def firstGiven? {α : Type} (find? : String → Option α) (given : List (String × String))
    (name : String) : Option α :=
  given.findSome? fun (fullName, flat) ↦ if flat = name then find? fullName else none

/-! ### First claims -/

section Claims

variable {α : Type} {find? : String → Option α} {given : List (String × String)}
  {fullName name : String}

theorem mem_of_firstGiven? {a : α} (h : firstGiven? find? given name = some a) :
    ∃ fullName, (fullName, name) ∈ given ∧ find? fullName = some a := by
  obtain ⟨⟨fullName, flat⟩, hmem, hfind⟩ := List.exists_of_findSome?_eq_some h
  dsimp only at hfind
  split_ifs at hfind with hflat
  exact ⟨fullName, hflat ▸ hmem, hfind⟩

theorem firstGiven?_of_grows {given' : List (String × String)} (hgrows : given <+: given')
    {a : α} (h : firstGiven? find? given name = some a) :
    firstGiven? find? given' name = some a := by
  obtain ⟨more, rfl⟩ := hgrows
  unfold firstGiven? at h ⊢
  rw [List.findSome?_append, h, Option.some_or]

/-- The first declaration under a flat name is the one that is given it while none has it. -/
theorem firstGiven?_concat (hnew : ∀ other, (other, name) ∈ given → find? other = none) :
    firstGiven? find? (given ++ [(fullName, name)]) name = find? fullName := by
  have hnone : firstGiven? find? given name = none := by
    unfold firstGiven?
    rw [List.findSome?_eq_none_iff]
    rintro ⟨other, flat⟩ hmem
    dsimp only
    split_ifs with hflat
    · exact hnew other (hflat ▸ hmem)
    · rfl
  unfold firstGiven? at hnone ⊢
  rw [List.findSome?_append, hnone, Option.none_or]
  simp

theorem lookup_of_grows {given' : List (String × String)} (hgrows : given <+: given')
    (h : given.lookup fullName = some name) : given'.lookup fullName = some name := by
  obtain ⟨more, rfl⟩ := hgrows
  rw [List.lookup_append, h, Option.some_or]

/-- Assumes: the full names of a table are distinct. Looking up a full name finds its entry. -/
theorem lookup_eq_some_iff_mem (hnodup : (given.map Prod.fst).Nodup) :
    given.lookup fullName = some name ↔ (fullName, name) ∈ given := by
  induction given with
  | nil => simp
  | cons entry rest ih =>
    obtain ⟨other, flat⟩ := entry
    rw [List.map_cons, List.nodup_cons] at hnodup
    rw [List.lookup_cons, List.mem_cons, Prod.mk.injEq]
    by_cases hother : fullName = other
    · subst hother
      have habsent : (fullName, name) ∉ rest := fun hmem ↦
        hnodup.1 (List.mem_map.mpr ⟨_, hmem, rfl⟩)
      simp [habsent, eq_comm]
    · have hkey : (fullName == other) = false := by simpa using hother
      simp [hkey, hother, ih hnodup.2]

end Claims

theorem mem_types_of_firstGiven? {schema : Schema} {given : List (String × String)} {name : String}
    {message : Message} (h : firstGiven? schema.message? given name = some message) :
    .message message ∈ schema.types := by
  obtain ⟨fullName, -, hmessage⟩ := mem_of_firstGiven? h
  exact Schema.mem_types_of_owner? (Schema.message?_eq_some_iff.mp hmessage)

/-! ### Owners of one kind -/

/-- The owners among the declarations that `find?` knows, as pairs of a flat name and a full name:
each flat name of the table that such a declaration has is owned once, by the first of them. -/
structure OwnedBy {α : Type} (find? : String → Option α) (given owners : List (String × String)) :
    Prop where
  nodup : (owners.map Prod.fst).Nodup
  first : ∀ name fullName, (name, fullName) ∈ owners →
    ∃ a, find? fullName = some a ∧ firstGiven? find? given name = some a
  covers : ∀ fullName name, (fullName, name) ∈ given → (find? fullName).isSome →
    name ∈ owners.map Prod.fst

namespace OwnedBy

variable {α : Type} {find? : String → Option α} {given owners : List (String × String)}
  {fullName name : String}

/-- Assumes: a declaration of this kind takes a name only if that is owned already. -/
theorem give (h : OwnedBy find? given owners)
    (hshared : (find? fullName).isSome → name ∈ owners.map Prod.fst) :
    OwnedBy find? (given ++ [(fullName, name)]) owners where
  nodup := h.nodup
  first := by
    intro flat other hmem
    obtain ⟨a, hfind, hfirst⟩ := h.first flat other hmem
    exact ⟨a, hfind, firstGiven?_of_grows (List.prefix_append _ _) hfirst⟩
  covers := by
    intro other flat hmem hsome
    rcases List.mem_append.mp hmem with hmem | hmem
    · exact h.covers other flat hmem hsome
    · cases List.mem_singleton.mp hmem
      exact hshared hsome

/-- A declaration of this kind becomes the owner of a name that none owns. -/
theorem own (h : OwnedBy find? given owners) (hfind : (find? fullName).isSome)
    (hfree : name ∉ owners.map Prod.fst) :
    OwnedBy find? (given ++ [(fullName, name)]) (owners ++ [(name, fullName)]) where
  nodup := by
    rw [List.map_append, List.nodup_append_comm]
    simpa using ⟨by simpa using hfree, h.nodup⟩
  first := by
    intro flat other hmem
    rcases List.mem_append.mp hmem with hmem | hmem
    · obtain ⟨a, hfind, hfirst⟩ := h.first flat other hmem
      exact ⟨a, hfind, firstGiven?_of_grows (List.prefix_append _ _) hfirst⟩
    · cases List.mem_singleton.mp hmem
      obtain ⟨a, ha⟩ := Option.isSome_iff_exists.mp hfind
      refine ⟨a, ha, ?_⟩
      rw [firstGiven?_concat, ha]
      intro other hother
      by_contra hsome
      exact hfree (h.covers other name hother (Option.isSome_iff_ne_none.mpr hsome))
  covers := by
    intro other flat hmem hsome
    rw [List.map_append, List.mem_append]
    rcases List.mem_append.mp hmem with hmem | hmem
    · exact .inl (h.covers other flat hmem hsome)
    · cases List.mem_singleton.mp hmem
      simp

end OwnedBy

/-! ### The table of a run -/

namespace State

theorem isSome_flatName?_of_mem {s : State} {fullName name : String}
    (h : (fullName, name) ∈ s.given) : (s.flatName? fullName).isSome := by
  rw [Option.isSome_iff_ne_none]
  intro hnone
  have hother := List.lookup_eq_none_iff.mp hnone _ h
  simp at hother

/-- The owners of flat names among the messages. -/
def messageOwners (s : State) : List (String × String) :=
  s.visits.map fun visit ↦ (visit.name, visit.owner)

theorem map_fst_messageOwners (s : State) :
    s.messageOwners.map Prod.fst = s.visits.map Visit.name := by
  rw [messageOwners, List.map_map]
  rfl

theorem visit?_eq_none_iff {s : State} {name : String} :
    s.visit? name = none ↔ name ∉ s.messageOwners.map Prod.fst := by
  rw [map_fst_messageOwners]
  simp [visit?, List.find?_eq_none, List.mem_map]

theorem enumOwner?_eq_none_iff {s : State} {name : String} :
    s.enumOwner? name = none ↔ name ∉ s.enumOwners.map Prod.fst := by
  rw [enumOwner?, List.lookup_eq_none_iff, List.mem_map]
  constructor
  · rintro h ⟨entry, hmem, rfl⟩
    simpa using h entry hmem
  · intro h entry hmem
    simpa using fun heq : name = entry.1 ↦ h ⟨entry, hmem, heq.symm⟩

end State

/-- The table of flat names is in order. -/
structure Tabled (schema : Schema) (s : State) : Prop where
  fullNames : (s.given.map Prod.fst).Nodup
  declared : ∀ fullName name, (fullName, name) ∈ s.given → (schema.owner? fullName).isSome
  messages : OwnedBy schema.message? s.given s.messageOwners
  enums : OwnedBy schema.enum? s.given s.enumOwners

/-- No flat name was given twice. -/
def Distinct (s : State) : Prop :=
  (s.given.map Prod.snd).Nodup

/-- Types that share a name are equal. -/
theorem Distinct.eq_of_mem_given {s : State} (h : Distinct s) {first second name : String}
    (hfirst : (first, name) ∈ s.given) (hsecond : (second, name) ∈ s.given) : first = second := by
  have heq := List.inj_on_of_nodup_map h hfirst hsecond rfl
  exact congrArg Prod.fst heq

namespace Tabled

variable {c : Context} {schema : Schema} {s t : State} {fullName name : String}

theorem start : Tabled schema {} where
  fullNames := List.nodup_nil
  declared := by simp
  messages := ⟨List.nodup_nil, by simp [State.messageOwners], by simp⟩
  enums := ⟨List.nodup_nil, by simp, by simp⟩

theorem flatName?_eq_some_iff (h : Tabled schema s) :
    s.flatName? fullName = some name ↔ (fullName, name) ∈ s.given :=
  lookup_eq_some_iff_mem h.fullNames

/-- No flat name was given twice just if types that share a name are equal. -/
theorem distinct_iff (h : Tabled schema s) :
    Distinct s ↔ ∀ first second name, (first, name) ∈ s.given → (second, name) ∈ s.given →
      first = second := by
  refine ⟨fun hdistinct _ _ _ ↦ hdistinct.eq_of_mem_given, fun hequal ↦ ?_⟩
  refine (List.nodup_map_iff_inj_on h.fullNames.of_map).mpr ?_
  rintro ⟨first, name⟩ hfirst ⟨second, other⟩ hsecond rfl
  rw [hequal first second name hfirst hsecond]

/-- A type that is named stands in the table with the name that looking it up finds. -/
theorem mem_given (h : Tabled schema s) (hnamed : (s.flatName? fullName).isSome) :
    (fullName, (s.given.lookup fullName).getD "") ∈ s.given := by
  obtain ⟨name, hname⟩ := Option.isSome_iff_exists.mp hnamed
  have hlookup : s.given.lookup fullName = some name := hname
  rw [hlookup, Option.getD_some]
  exact h.flatName?_eq_some_iff.mp hname

/-- A name that no type owns was not given. -/
theorem not_mem_names (h : Tabled schema s) (hmessage : name ∉ s.messageOwners.map Prod.fst)
    (henum : name ∉ s.enumOwners.map Prod.fst) : name ∉ s.given.map Prod.snd := by
  intro hmem
  obtain ⟨⟨fullName, flat⟩, hentry, rfl⟩ := List.mem_map.mp hmem
  obtain ⟨type, htype⟩ := Option.isSome_iff_exists.mp (h.declared fullName flat hentry)
  cases type with
  | message message =>
    refine hmessage (h.messages.covers fullName flat hentry ?_)
    simp [Schema.message?, htype]
  | enum enum =>
    refine henum (h.enums.covers fullName flat hentry ?_)
    simp [Schema.enum?, htype]

theorem fullNames_concat (h : Tabled schema s) (hfresh : s.flatName? fullName = none) :
    ((s.given ++ [(fullName, name)]).map Prod.fst).Nodup := by
  rw [List.map_append, List.nodup_append_comm]
  refine List.nodup_cons.mpr ⟨?_, h.fullNames⟩
  intro hmem
  obtain ⟨⟨other, flat⟩, hentry, rfl⟩ := List.mem_map.mp hmem
  have hfound := h.flatName?_eq_some_iff.mpr hentry
  rw [hfresh] at hfound
  cases hfound

theorem declared_concat (h : Tabled schema s) (howner : (schema.owner? fullName).isSome) :
    ∀ other flat, (other, flat) ∈ s.given ++ [(fullName, name)] →
      (schema.owner? other).isSome := by
  intro other flat hmem
  rcases List.mem_append.mp hmem with hmem | hmem
  · exact h.declared other flat hmem
  · cases List.mem_singleton.mp hmem
    exact howner

theorem naming {type : NamedType} {around : Option String} {frame : Option Frame}
    (h : Tabled c.schema s) (howner : c.schema.owner? type.fullName = some type)
    (hnaming : Naming c s type around name frame t) : Tabled c.schema t := by
  have hdeclared : (c.schema.owner? type.fullName).isSome := by simp [howner]
  cases hnaming with
  | known => exact h
  | @message message _ hfresh hfree _ =>
    have hmessage : c.schema.message? message.fullName = some message :=
      Schema.message?_eq_some_iff.mpr howner
    have hsome : (c.schema.message? message.fullName).isSome := by simp [hmessage]
    have howners := h.messages.own hsome (State.visit?_eq_none_iff.mp hfree)
    refine ⟨h.fullNames_concat hfresh, h.declared_concat hdeclared, ?_, h.enums.give ?_⟩
    · simpa [State.ownMessage, State.messageOwners] using howners
    · simp [Schema.enum?_eq_none_of_message? hmessage]
  | @sharedMessage message _ visit hfresh htaken _ =>
    have hmessage : c.schema.message? message.fullName = some message :=
      Schema.message?_eq_some_iff.mpr howner
    refine ⟨h.fullNames_concat hfresh, h.declared_concat hdeclared,
      h.messages.give fun _ ↦ ?_, h.enums.give ?_⟩
    · by_contra hfree
      rw [State.visit?_eq_none_iff.mpr hfree] at htaken
      cases htaken
    · simp [Schema.enum?_eq_none_of_message? hmessage]
  | @enum enum _ hfresh hfree _ =>
    have henum : c.schema.enum? enum.fullName = some enum :=
      Schema.enum?_eq_some_iff.mpr howner
    refine ⟨h.fullNames_concat hfresh, h.declared_concat hdeclared, h.messages.give ?_,
      h.enums.own (by simp [henum]) (State.enumOwner?_eq_none_iff.mp hfree)⟩
    simp [Schema.message?_eq_none_of_enum? henum]
  | @sharedEnum enum _ owner hfresh htaken _ =>
    have henum : c.schema.enum? enum.fullName = some enum :=
      Schema.enum?_eq_some_iff.mpr howner
    refine ⟨h.fullNames_concat hfresh, h.declared_concat hdeclared, h.messages.give ?_,
      h.enums.give fun _ ↦ ?_⟩
    · simp [Schema.message?_eq_none_of_enum? henum]
    · by_contra hfree
      rw [State.enumOwner?_eq_none_iff.mpr hfree] at htaken
      cases htaken

end Tabled

/-! ### Growth -/

theorem State.isSome_flatName?_of_grows {s t : State} (hgrows : s.given <+: t.given)
    {fullName : String} (h : (s.flatName? fullName).isSome) : (t.flatName? fullName).isSome := by
  obtain ⟨name, hname⟩ := Option.isSome_iff_exists.mp h
  exact Option.isSome_iff_exists.mpr ⟨name, lookup_of_grows hgrows hname⟩

namespace Naming

variable {c : Context} {s t : State} {type : NamedType} {around : Option String} {name : String}
  {frame : Option Frame}

/-- Reaching a type adds at most its own name to the table. -/
theorem given_eq (h : Naming c s type around name frame t) :
    t.given = s.given ∨
      s.flatName? type.fullName = none ∧ t.given = s.given ++ [(type.fullName, name)] := by
  cases h with
  | known => exact .inl rfl
  | message hfresh => exact .inr ⟨hfresh, rfl⟩
  | sharedMessage hfresh => exact .inr ⟨hfresh, rfl⟩
  | enum hfresh => exact .inr ⟨hfresh, rfl⟩
  | sharedEnum hfresh => exact .inr ⟨hfresh, rfl⟩

/-- What is in the table was there before, or is the type that was reached, under its name. -/
theorem mem_given (h : Naming c s type around name frame t) {fullName flat : String}
    (hmem : (fullName, flat) ∈ t.given) :
    (fullName, flat) ∈ s.given ∨
      s.flatName? type.fullName = none ∧ (fullName, flat) = (type.fullName, name) := by
  rcases h.given_eq with heq | ⟨hfresh, heq⟩
  · exact .inl (heq ▸ hmem)
  · rw [heq, List.mem_append, List.mem_singleton] at hmem
    exact hmem.imp_right fun hnew ↦ ⟨hfresh, hnew⟩

theorem given_grows (h : Naming c s type around name frame t) : s.given <+: t.given := by
  rcases h.given_eq with heq | ⟨-, heq⟩
  · exact heq ▸ List.prefix_rfl
  · exact ⟨_, heq.symm⟩

/-- Whatever was reached has the name that reaching answers. -/
theorem flatName?_eq (h : Naming c s type around name frame t) :
    t.flatName? type.fullName = some name := by
  have hconcat (hfresh : s.flatName? type.fullName = none)
      (heq : t.given = s.given ++ [(type.fullName, name)]) :
      t.flatName? type.fullName = some name := by
    unfold State.flatName? at hfresh ⊢
    rw [heq, List.lookup_append, hfresh, Option.none_or]
    simp
  cases h with
  | known hnamed => exact hnamed
  | message hfresh => exact hconcat hfresh rfl
  | sharedMessage hfresh => exact hconcat hfresh rfl
  | enum hfresh => exact hconcat hfresh rfl
  | sharedEnum hfresh => exact hconcat hfresh rfl

/-- In a strict run a type takes a name only if no type owns it. -/
theorem distinct (h : Naming c s type around name frame t) (htabled : Tabled c.schema s)
    (hstrict : c.strict) (hdistinct : Distinct s) : Distinct t := by
  have hconcat {fullName flat : String} (hnew : flat ∉ s.given.map Prod.snd) :
      ((s.given ++ [(fullName, flat)]).map Prod.snd).Nodup := by
    rw [List.map_append, List.nodup_append_comm]
    exact List.nodup_cons.mpr ⟨hnew, hdistinct⟩
  cases h with
  | known => exact hdistinct
  | message _ hfree hquiet =>
    exact hconcat (htabled.not_mem_names (State.visit?_eq_none_iff.mp hfree)
      (State.enumOwner?_eq_none_iff.mp (hquiet hstrict)))
  | sharedMessage _ _ hlenient => simp [hlenient] at hstrict
  | enum _ hfree hquiet =>
    exact hconcat (htabled.not_mem_names (State.visit?_eq_none_iff.mp (hquiet hstrict))
      (State.enumOwner?_eq_none_iff.mp hfree))
  | sharedEnum _ _ hlenient => simp [hlenient] at hstrict

end Naming

section Walks

variable {c : Context} {s t : State}

theorem Targeting.given_grows {field : Field} {around : String} {target : Target}
    {frame : Option Frame} (h : Targeting c s field around target frame t) :
    s.given <+: t.given := by
  cases h with
  | scalar => exact List.prefix_rfl
  | timestamp => exact List.prefix_rfl
  | named _ _ hnaming => exact hnaming.given_grows

theorem Advance.given_grows (h : Advance c s t) : s.given <+: t.given := by
  cases h with
  | finish => exact List.prefix_rfl
  | field _ _ _ htargeting => exact htargeting.given_grows

theorem given_grows_of_advances (h : ReflTransGen (Advance c) s t) : s.given <+: t.given := by
  induction h with
  | refl => exact List.prefix_rfl
  | tail _ hadvance ih => exact ih.trans hadvance.given_grows

/-- Walking a message keeps all names, and leaves the message with one. -/
theorem Context.walkMessage_given {message : Message} (h : c.walkMessage message s = .ok t) :
    s.given <+: t.given ∧ (t.flatName? message.fullName).isSome := by
  obtain ⟨name, frame, u, hnaming, hadvances, -⟩ := walkMessage_naming h
  have hgrows := given_grows_of_advances hadvances
  change u.given <+: t.given at hgrows
  have hname : t.flatName? message.fullName = some name :=
    lookup_of_grows hgrows hnaming.flatName?_eq
  exact ⟨hnaming.given_grows.trans hgrows, by simp [hname]⟩

end Walks

/-- A run names the inputs and the outputs of the usable methods. -/
theorem Runs.isSome_flatName? {c : Context} {methods : List Method} {s : State}
    (h : Runs c methods s) : ∀ method ∈ methods, method.route?.isSome →
      (s.flatName? method.input).isSome ∧ (s.flatName? method.output).isSome := by
  induction h with
  | start => simp
  | @skip before last s _ hunusable ih =>
    intro method hmethod husable
    rcases List.mem_append.mp hmethod with hmethod | hmethod
    · exact ih method hmethod husable
    · obtain rfl := List.mem_singleton.mp hmethod
      simp [hunusable] at husable
  | @walk before last route input output s t u _ _ hinput houtput hwalkInput hwalkOutput ih =>
    obtain ⟨hgrowsInput, hinputNamed⟩ := Context.walkMessage_given hwalkInput
    obtain ⟨hgrowsOutput, houtputNamed⟩ := Context.walkMessage_given hwalkOutput
    intro method hmethod husable
    rcases List.mem_append.mp hmethod with hmethod | hmethod
    · obtain ⟨hinputOld, houtputOld⟩ := ih method hmethod husable
      have hgrows := hgrowsInput.trans hgrowsOutput
      exact ⟨State.isSome_flatName?_of_grows hgrows hinputOld,
        State.isSome_flatName?_of_grows hgrows houtputOld⟩
    · obtain rfl := List.mem_singleton.mp hmethod
      rw [Schema.fullName_of_message? hinput] at hinputNamed
      rw [Schema.fullName_of_message? houtput] at houtputNamed
      exact ⟨State.isSome_flatName?_of_grows hgrowsOutput hinputNamed, houtputNamed⟩

end ClientGen.Flattening
