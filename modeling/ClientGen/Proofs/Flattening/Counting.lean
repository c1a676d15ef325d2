import ClientGen.Proofs.Flattening.Faithfulness
import ClientGen.Proofs.Flattening.Strictness
import Mathlib.Data.Finset.Card

/-!
# Every collision is reported once

A lenient run logs a warning just when a type takes a flat name that some type has already, of its
own kind or of the other. `Counted` puts it as a balance: the warnings and the distinct flat names
together are as many as the types with a name. Each move keeps the balance, so that at the end of a
run the warnings count the types that are left without a name of their own (`flatten_reports`). In
`Depot` a message, an enum and another message take one name.
-/

set_option autoImplicit false
set_option relaxedAutoImplicit false

namespace ClientGen

open Declaration Flattening Relation

namespace Flattening

/-! ### The names of the table are the owned names -/

theorem OwnedBy.mem_names {α : Type} {find? : String → Option α}
    {given owners : List (String × String)} (h : OwnedBy find? given owners) {name : String}
    (hname : name ∈ owners.map Prod.fst) : name ∈ given.map Prod.snd := by
  obtain ⟨⟨flat, fullName⟩, howner, rfl⟩ := List.mem_map.mp hname
  obtain ⟨a, -, hfirst⟩ := h.first flat fullName howner
  obtain ⟨other, hgiven, -⟩ := mem_of_firstGiven? hfirst
  exact List.mem_map.mpr ⟨_, hgiven, rfl⟩

namespace Tabled

variable {schema : Schema} {s : State} {name : String}

theorem mem_names_of_visit? (h : Tabled schema s) {visit : Visit}
    (hvisit : s.visit? name = some visit) : name ∈ s.given.map Prod.snd := by
  by_contra hnot
  have hfree : name ∉ s.messageOwners.map Prod.fst :=
    fun howned ↦ hnot (h.messages.mem_names howned)
  rw [State.visit?_eq_none_iff.mpr hfree] at hvisit
  cases hvisit

theorem mem_names_of_enumOwner? (h : Tabled schema s) {owner : String}
    (howner : s.enumOwner? name = some owner) : name ∈ s.given.map Prod.snd := by
  by_contra hnot
  have hfree : name ∉ s.enumOwners.map Prod.fst :=
    fun howned ↦ hnot (h.enums.mem_names howned)
  rw [State.enumOwner?_eq_none_iff.mpr hfree] at howner
  cases howner

end Tabled

namespace State

variable {c : Context} {s : State} {fullName name : String}

theorem events_ownMessage_free (h : s.enumOwner? name = none) :
    (s.ownMessage c fullName name).events = s.events := by
  simp [ownMessage, h, mixedReports]

theorem events_ownMessage_mixed {other : String} (h : s.enumOwner? name = some other) :
    (s.ownMessage c fullName name).events =
      s.events ++ [.collision (.mixed name c.service other fullName)] := by
  simp [ownMessage, h, mixedReports]

theorem events_ownEnum_free {record : Record.Enum} (h : s.visit? name = none) :
    (s.ownEnum c fullName name record).events = s.events := by
  simp [ownEnum, h, mixedReports]

theorem events_ownEnum_mixed {record : Record.Enum} {other : Visit}
    (h : s.visit? name = some other) :
    (s.ownEnum c fullName name record).events =
      s.events ++ [.collision (.mixed name c.service other.owner fullName)] := by
  simp [ownEnum, h, mixedReports]

end State

/-! ### The balance -/

theorem warnings_append (events more : List Event) :
    warnings (events ++ more) = warnings events ++ warnings more := by
  simp [warnings]

/-- The warnings and the distinct flat names are together as many as the types with a name. -/
def Counted (s : State) : Prop :=
  (warnings s.events).length + (s.given.map Prod.snd).toFinset.card = s.given.length

namespace Counted

variable {c : Context} {service : Service} {s t : State}

/-- A name that no type has comes without a report. -/
theorem give_fresh (h : Counted s) {fullName name : String}
    (hgiven : t.given = s.given ++ [(fullName, name)]) (hevents : t.events = s.events)
    (hname : name ∉ s.given.map Prod.snd) : Counted t := by
  have hcard : (t.given.map Prod.snd).toFinset.card =
      (s.given.map Prod.snd).toFinset.card + 1 := by
    rw [hgiven, List.map_append, List.toFinset_append]
    simp only [List.map_cons, List.map_nil, List.toFinset_cons, List.toFinset_nil,
      insert_empty_eq]
    rw [Finset.union_comm, Finset.singleton_union, Finset.card_insert_of_notMem]
    simpa using hname
  unfold Counted at h ⊢
  rw [hcard, hevents, hgiven, List.length_append, List.length_singleton]
  omega

/-- A name that a type has already comes with one report. -/
theorem give_taken (h : Counted s) {fullName name : String} (report : Report)
    (hgiven : t.given = s.given ++ [(fullName, name)])
    (hevents : t.events = s.events ++ [.collision report])
    (hname : name ∈ s.given.map Prod.snd) : Counted t := by
  have hcard : (t.given.map Prod.snd).toFinset.card = (s.given.map Prod.snd).toFinset.card := by
    have hmem : name ∈ (s.given.map Prod.snd).toFinset := List.mem_toFinset.mpr hname
    rw [hgiven, List.map_append, List.toFinset_append]
    congr 1
    simpa using hmem
  have hwarnings : (warnings t.events).length = (warnings s.events).length + 1 := by
    rw [hevents, warnings_append, List.length_append]
    rfl
  unfold Counted at h ⊢
  rw [hcard, hwarnings, hgiven, List.length_append, List.length_singleton]
  omega

theorem naming (h : Counted s) {type : NamedType} {around : Option String} {name : String}
    {frame : Option Frame} (hnaming : Naming c s type around name frame t)
    (htabled : Tabled c.schema s) : Counted t := by
  cases hnaming with
  | known => exact h
  | @message message _ hfresh hfree _ =>
    cases hother : s.enumOwner? (flatName message.name message.parent around) with
    | none =>
      exact h.give_fresh rfl (State.events_ownMessage_free hother)
        (htabled.not_mem_names (State.visit?_eq_none_iff.mp hfree)
          (State.enumOwner?_eq_none_iff.mp hother))
    | some other =>
      exact h.give_taken _ rfl (State.events_ownMessage_mixed hother)
        (htabled.mem_names_of_enumOwner? hother)
  | sharedMessage hfresh htaken _ =>
    exact h.give_taken _ rfl rfl (htabled.mem_names_of_visit? htaken)
  | @enum enum _ hfresh hfree _ =>
    cases hother : s.visit? (flatName enum.name enum.parent around) with
    | none =>
      exact h.give_fresh rfl (State.events_ownEnum_free hother)
        (htabled.not_mem_names (State.visit?_eq_none_iff.mp hother)
          (State.enumOwner?_eq_none_iff.mp hfree))
    | some other =>
      exact h.give_taken _ rfl (State.events_ownEnum_mixed hother)
        (htabled.mem_names_of_visit? hother)
  | sharedEnum hfresh htaken _ =>
    exact h.give_taken _ rfl rfl (htabled.mem_names_of_enumOwner? htaken)

theorem advance (h : Counted s) (hadvance : Advance c s t) (htabled : Tabled c.schema s) :
    Counted t := by
  cases hadvance with
  | finish => exact h
  | field _ _ _ htargeting =>
    cases htargeting with
    | scalar => exact h
    | timestamp => exact h
    | named _ _ hnaming =>
      have hcounted := h.naming hnaming htabled
      exact hcounted

theorem move (h : Counted s) (hmove : Move c service s t) (htabled : Tabled c.schema s) :
    Counted t := by
  cases hmove with
  | @note event hquiet =>
    have hwarnings : warnings (s.note event).events = warnings s.events := by
      rw [State.note, warnings_append]
      cases event with
      | collision report => exact absurd rfl (hquiet report)
      | streaming | unrouted => exact List.append_nil _
    unfold Counted at h ⊢
    rw [hwarnings]
    exact h
  | call => exact h
  | enter _ _ hnaming =>
    have hcounted := h.naming hnaming htabled
    exact hcounted
  | advance hadvance => exact h.advance hadvance htabled

/-- Wherever moves lead from the empty state, the balance holds. -/
theorem of_moves (h : ReflTransGen (Move c service) {} s) : Counted s := by
  induction h with
  | refl => rfl
  | tail hmoves hmove ih => exact ih.move hmove (Sound.of_moves hmoves).tabled

/-- There is no warning just if no flat name was given twice. -/
theorem warnings_eq_nil_iff (h : Counted s) : warnings s.events = [] ↔ Distinct s := by
  unfold Counted at h
  rw [← List.length_eq_zero_iff, Distinct]
  constructor
  · intro hzero
    have hcard : (s.given.map Prod.snd).toFinset.card = (s.given.map Prod.snd).length := by
      rw [List.length_map]
      omega
    exact Multiset.toFinset_card_eq_card_iff_nodup.mp hcard
  · intro hnodup
    rw [List.toFinset_card_of_nodup hnodup, List.length_map] at h
    omega

end Counted

end Flattening

/-- Assumes: a linked descriptor set, a service of one of its files, and a result of flattening it
in a lenient run. The table at the end of the run names each type once. The warnings and the
distinct flat names are together as many as the types. So there is no warning just if no two types
share a flat name, of whatever kinds they are, and a strict run stops at a collision just if two
types do. -/
theorem flatten_reports {set : List Descriptor.File} {schema : Schema} {file : File}
    {service : Service} {result : Result} (hlink : Schema.link set = .ok schema)
    (hfile : file ∈ schema.files) (hservice : service ∈ file.services)
    (hresult : flatten schema false service = .ok result) :
    ∃ s, Context.run ⟨schema, service.name, false⟩ service.methods = .ok s ∧
      s.result service = result ∧ (s.given.map Prod.fst).Nodup ∧
      (warnings result.events).length + (s.given.map Prod.snd).toFinset.card =
        (s.given.map Prod.fst).toFinset.card ∧
      (warnings result.events = [] ↔
        ∀ first second name, (first, name) ∈ s.given → (second, name) ∈ s.given →
          first = second) ∧
      ((∃ report before, flatten schema true service = .error ⟨.collision report, before⟩) ↔
        ∃ first second name, first ≠ second ∧ (first, name) ∈ s.given ∧
          (second, name) ∈ s.given) := by
  obtain ⟨s, hruns, rfl, -, hsound⟩ := exists_sound_of_flatten hlink hfile hservice hresult
  have hcounted : Counted s := .of_moves (hruns.moves fun _ hmethod ↦ hmethod).1
  have hquiet := hcounted.warnings_eq_nil_iff.trans hsound.tabled.distinct_iff
  refine ⟨s, hruns.eq_ok, rfl, hsound.tabled.fullNames, ?_, hquiet, ?_⟩
  · rw [List.toFinset_card_of_nodup hsound.tabled.fullNames, List.length_map]
    exact hcounted
  · rw [(flatten_stops schema service).strict_eq rfl, hresult, exists_stopped_collision_iff]
    refine (not_congr hquiet).trans ?_
    push Not
    refine exists_congr fun first ↦ exists_congr fun second ↦ exists_congr fun name ↦ ?_
    tauto

namespace Depot

/-- The descriptors of a depot. -/
def descriptors : List Descriptor.File :=
  [{ name := "kinds.proto"
     package := "kinds"
     enums := [{ name := "Item", values := [("PLAIN", 0)] }] },
   { name := "former.proto"
     package := "former"
     messages := [{ name := "Item" }] },
   { name := "depot.proto"
     package := "depot"
     messages := [
       { name := "Item" },
       { name := "Box"
         fields := [
           { name := "item", jsonName := some "item", type := .message
             typeName := ".depot.Item" },
           { name := "kind", jsonName := some "kind", type := .enum, typeName := ".kinds.Item" },
           { name := "former", jsonName := some "former", type := .message
             typeName := ".former.Item" }] }]
     services := [
       { name := "Depot"
         methods := [
           { name := "Store", input := ".depot.Box", output := ".depot.Box"
             rule := some ⟨some (.put "/boxes")⟩ }] }] }]

/-- A box. -/
def box : Message :=
  ⟨"Box", ".depot.Box", "", false, none, [
    ⟨"item", "item", .message, false, "", .message ".depot.Item"⟩,
    ⟨"kind", "kind", .enum, false, "", .enum ".kinds.Item"⟩,
    ⟨"former", "former", .message, false, "", .message ".former.Item"⟩], [], []⟩

/-- The service of the depot: boxes are stored. -/
def service : Service :=
  ⟨"Depot", "", "depot.proto", [
    ⟨"Store", ".depot.Box", ".depot.Box", false, false, "", some ⟨some (.put "/boxes")⟩⟩]⟩

/-- The file of the depot. -/
def file : File :=
  ⟨"depot.proto", "depot",
    [⟨"Item", ".depot.Item", "", false, none, [], [], []⟩, box], [], [service]⟩

/-- The linked depot. -/
def schema : Schema :=
  ⟨[⟨"kinds.proto", "kinds", [], [⟨"Item", ".kinds.Item", "", none, [⟨"PLAIN", 0, ""⟩]⟩], []⟩,
    ⟨"former.proto", "former", [⟨"Item", ".former.Item", "", false, none, [], [], []⟩], [], []⟩,
    file]⟩

/-- The records of the depot. -/
def flat : Record.Service where
  name := "Depot"
  comment := ""
  calls := [⟨"Store", "PUT", "/boxes", "Box", "Box", ""⟩]
  messages := [
    ⟨"Item", "", []⟩,
    ⟨"Box", "", [
      ⟨"item", "TYPE_MESSAGE", .reference "Item" false, ""⟩,
      ⟨"kind", "TYPE_ENUM", .reference "Item" false, ""⟩,
      ⟨"former", "TYPE_MESSAGE", .reference "Item" false, ""⟩]⟩]
  enums := [⟨"Item", "", [⟨"PLAIN", 0, ""⟩]⟩]

/-- The result of flattening the depot. -/
def result : Result :=
  ⟨flat, [⟨"Box", ".depot.Box", 0⟩, ⟨"Item", ".depot.Item", 0⟩], [
    .collision (.mixed "Item" "Depot" ".depot.Item" ".kinds.Item"),
    .collision (.shared .message "Item" "Depot" ".depot.Item" ".former.Item")]⟩

theorem link_eq : Schema.link descriptors = .ok schema := by
  rfl

theorem flatten_eq : flatten schema false service = .ok result := by
  simp only [flatten, service, List.foldlM_cons, List.foldlM_nil, Context.walkMethod,
    Context.walkRoute, Context.walkMessage, Context.drain_eq]
  decide +kernel

theorem flatten_strict_eq : flatten schema true service =
    .error ⟨.collision (.mixed "Item" "Depot" ".depot.Item" ".kinds.Item"), []⟩ := by
  simp only [flatten, service, List.foldlM_cons, List.foldlM_nil, Context.walkMethod,
    Context.walkRoute, Context.walkMessage, Context.drain_eq]
  decide +kernel

theorem file_mem : file ∈ schema.files := by
  simp [schema]

theorem service_mem : service ∈ file.services :=
  List.mem_singleton_self service

theorem flat_reports :
    ∃ s, Context.run ⟨schema, "Depot", false⟩ service.methods = .ok s ∧
      s.result service = result ∧ (s.given.map Prod.fst).Nodup ∧
      2 + (s.given.map Prod.snd).toFinset.card = (s.given.map Prod.fst).toFinset.card ∧
      ∃ first second name, first ≠ second ∧ (first, name) ∈ s.given ∧
        (second, name) ∈ s.given := by
  obtain ⟨s, hrun, hresult, hnodup, hcount, -, hstrict⟩ :=
    flatten_reports link_eq file_mem service_mem flatten_eq
  have hwarnings : (warnings result.events).length = 2 := rfl
  rw [hwarnings] at hcount
  exact ⟨s, hrun, hresult, hnodup, hcount, hstrict.mp ⟨_, _, flatten_strict_eq⟩⟩

end Depot

end ClientGen
