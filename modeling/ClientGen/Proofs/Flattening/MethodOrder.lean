import ClientGen.Proofs.Flattening.Calls
import ClientGen.Proofs.Flattening.Completeness
import ClientGen.Proofs.Flattening.Counting
import ClientGen.Proofs.Flattening.Progress

/-!
# The order of methods

The order of its methods decides which type of a service is reached first, and so, for nested types,
how they are called. If the service reaches no nested type (`Schema.Unnested`), every type has the
name under which it is declared, whoever reaches it. What a strict run comes to is then a matter of
reachability alone: it returns just if no two reachable types share a name
(`returns_strict_iff`), and its records are those of the reachable types. Since a service reaches
the same types whatever the order of its methods, so do runs over permuted methods
(`flatten_perm`). In `Club` the order shows only in the order of the records.
-/

set_option autoImplicit false
set_option relaxedAutoImplicit false

namespace ClientGen

open Declaration Flattening

namespace Schema

/-- The service reaches no type that is declared inside a message. -/
def Unnested (schema : Schema) (service : Service) : Prop :=
  ∀ type, schema.Reachable service type → type.parent = none

/-- Types that the service reaches have different names. -/
def NamesApart (schema : Schema) (service : Service) : Prop :=
  ∀ first second, schema.Reachable service first → schema.Reachable service second →
    first.name = second.name → first = second

/-- The call of a usable method. -/
def call? (schema : Schema) (method : Method) : Option Record.Call := do
  let route ← method.route?
  let input ← schema.message? method.input
  let output ← schema.message? method.output
  return Context.callRecord method route input output

variable {schema : Schema} {service other : Service}

/-! ### Services with the same methods -/

theorem Root.of_subset (hmethods : ∀ method ∈ service.methods, method ∈ other.methods)
    {message : Message} (h : schema.Root service message) : schema.Root other message := by
  cases h with
  | input hmem husable howner => exact .input (hmethods _ hmem) husable howner
  | output hmem husable howner => exact .output (hmethods _ hmem) husable howner

theorem Reachable.of_subset (hmethods : ∀ method ∈ service.methods, method ∈ other.methods)
    {type : NamedType} (h : schema.Reachable service type) : schema.Reachable other type := by
  induction h with
  | root hroot => exact .root (hroot.of_subset hmethods)
  | field _ hfield hsubject hreferent hshown ih => exact .field ih hfield hsubject hreferent hshown

/-- Services with the same methods, in whatever order, reach the same types. -/
theorem reachable_eq_of_perm {methods : List Method} (hperm : methods.Perm service.methods) :
    schema.Reachable { service with methods } = schema.Reachable service := by
  funext type
  refine propext ⟨fun h ↦ h.of_subset fun _ ↦ hperm.mem_iff.mp, fun h ↦ ?_⟩
  exact h.of_subset fun _ ↦ hperm.mem_iff.mpr

theorem unnested_congr (hreach : schema.Reachable service = schema.Reachable other) :
    schema.Unnested service ↔ schema.Unnested other := by
  unfold Unnested
  rw [hreach]

theorem namesApart_congr (hreach : schema.Reachable service = schema.Reachable other) :
    schema.NamesApart service ↔ schema.NamesApart other := by
  unfold NamesApart
  rw [hreach]

end Schema

namespace Flattening

/-! ### Every type under its own name -/

/-- The roots of a service that was run over are named. -/
theorem Runs.isSome_flatName?_of_root {c : Context} {service : Service} {s : State}
    (h : Runs c service.methods s) {message : Message} (hroot : c.schema.Root service message) :
    (s.flatName? message.fullName).isSome := by
  cases hroot with
  | @input method _ hmethod husable howner =>
    rw [Schema.fullName_of_message? howner]
    exact (h.isSome_flatName? method hmethod husable).1
  | @output method _ hmethod husable howner =>
    rw [Schema.fullName_of_message? howner]
    exact (h.isSome_flatName? method hmethod husable).2

/-- The calls of a run are those of its usable methods. -/
theorem Runs.calls_eq {c : Context} {methods : List Method} {s : State} (h : Runs c methods s) :
    s.calls = methods.filterMap c.schema.call? := by
  induction h with
  | start => rfl
  | @skip before method s _ hunusable ih =>
    have hcall : c.schema.call? method = none := by simp [Schema.call?, hunusable]
    rw [List.filterMap_append, ← ih]
    simp [hcall, State.note]
  | @walk before method route input output s t u _ hroute hinput houtput hwalkInput
      hwalkOutput ih =>
    have hcall : c.schema.call? method = some (Context.callRecord method route input output) := by
      simp [Schema.call?, hroute, hinput, houtput]
    rw [List.filterMap_append, ← ih, Context.walkMessage_calls hwalkOutput,
      Context.walkMessage_calls hwalkInput]
    simp [hcall]

/-- Every type in a table is one that the service reaches, under its own name. -/
def OwnNames (schema : Schema) (service : Service) (given : List (String × String)) : Prop :=
  ∀ fullName name, (fullName, name) ∈ given → ∃ type, schema.owner? fullName = some type ∧
    schema.Reachable service type ∧ name = type.name

/-- Every type that the service reaches is in a table, under its own name. -/
def AllNamed (schema : Schema) (service : Service) (given : List (String × String)) : Prop :=
  ∀ type, schema.Reachable service type → given.lookup type.fullName = some type.name

section Names

variable {c : Context} {service : Service} {s : State}

/-- Assumes: the service reaches no nested type. -/
theorem Sound.ownNames (h : Sound c service s) (hruns : Runs c service.methods s)
    (hunnested : c.schema.Unnested service) : OwnNames c.schema service s.given := by
  intro fullName name hgiven
  obtain ⟨type, howner, hreachable⟩ := h.reachable fullName name hgiven
  refine ⟨type, howner, hreachable, ?_⟩
  obtain ⟨shaped, hshaped, hshape⟩ := hruns.shaped hgiven
  rw [howner] at hshaped
  cases hshaped
  rcases hshape with ⟨-, hname⟩ | ⟨-, around, hname⟩
  · exact hname
  · rw [hname]
    exact flatName_some_eq_iff.mpr (hunnested type hreachable)

/-- Assumes: no message is being walked, no name was given twice, and the service reaches no nested
type. -/
theorem Sound.allNamed (h : Sound c service s) (hruns : Runs c service.methods s)
    (hidle : s.stack = []) (hdistinct : Distinct s) (hunnested : c.schema.Unnested service) :
    AllNamed c.schema service s.given := by
  intro type hreachable
  have hnamed := h.isSome_flatName?_of_reachable hidle hdistinct
    (fun _ hroot ↦ hruns.isSome_flatName?_of_root hroot) hreachable
  obtain ⟨name, hname⟩ := Option.isSome_iff_exists.mp hnamed
  obtain ⟨owner, howner, -, rfl⟩ :=
    h.ownNames hruns hunnested _ _ (h.tabled.flatName?_eq_some_iff.mp hname)
  rw [hreachable.owner?] at howner
  cases howner
  exact hname

/-- Assumes: every type that the service reaches has its own name, once. -/
theorem AllNamed.namesApart (h : AllNamed c.schema service s.given) (hdistinct : Distinct s)
    (htabled : Tabled c.schema s) : c.schema.NamesApart service := by
  intro first second hfirst hsecond hname
  have hfirstGiven := htabled.flatName?_eq_some_iff.mp (h first hfirst)
  have hsecondGiven := htabled.flatName?_eq_some_iff.mp (h second hsecond)
  rw [← hname] at hsecondGiven
  exact Sound.eq_of_mem_given hdistinct hfirst hsecond hfirstGiven hsecondGiven

/-- Assumes: types that the service reaches have different names. No name was given twice. -/
theorem OwnNames.distinct (h : OwnNames c.schema service s.given) (htabled : Tabled c.schema s)
    (hapart : c.schema.NamesApart service) : Distinct s := by
  refine htabled.distinct_iff.mpr fun first second name hfirst hsecond ↦ ?_
  obtain ⟨type, howner, hreachable, rfl⟩ := h first name hfirst
  obtain ⟨other, hother, hotherReachable, hname⟩ := h second type.name hsecond
  rw [← Schema.fullName_of_owner? howner, ← Schema.fullName_of_owner? hother,
    hapart type other hreachable hotherReachable hname]

end Names

/-! ### The outcome of a strict run -/

section Outcome

variable {schema : Schema} {service : Service}

/-- Assumes: a service whose methods are linked, that reaches no nested type, and a result of a
strict run. The records are those of the reachable types, by a table that has each of them under its
own name. -/
theorem exists_complete_of_strict (hlinked : ∀ method ∈ service.methods, schema.MethodLinked method)
    (hunnested : schema.Unnested service) {result : Result}
    (hresult : flatten schema true service = .ok result) :
    ∃ given, AllNamed schema service given ∧ Complete schema service given result.service ∧
      schema.NamesApart service ∧
      result.service.calls = service.methods.filterMap schema.call? := by
  obtain ⟨s, hruns, rfl, hidle, hsound⟩ := exists_sound_of_linked hlinked hresult
  have hdistinct := hsound.distinct rfl
  have hnamed := hsound.allNamed hruns hidle hdistinct hunnested
  refine ⟨s.given, hnamed, ?_, hnamed.namesApart hdistinct hsound.tabled, hruns.calls_eq⟩
  exact hsound.complete hidle hdistinct fun type hreachable ↦
    Option.isSome_iff_exists.mpr ⟨_, hnamed type hreachable⟩

/-- Assumes: a service whose methods are linked, whole entries, and no nested type that the service
reaches. A strict run returns just if the reachable types have different names. -/
theorem returns_strict_iff (hlinked : ∀ method ∈ service.methods, schema.MethodLinked method)
    (hwhole : schema.WholeEntries) (hunnested : schema.Unnested service) :
    Returns (flatten schema true service) ↔ schema.NamesApart service := by
  constructor
  · rintro ⟨result, hresult⟩
    obtain ⟨-, -, -, hapart, -⟩ := exists_complete_of_strict hlinked hunnested hresult
    exact hapart
  · intro hapart
    -- The lenient run returns, and would warn only of a name that two types share.
    obtain ⟨result, hresult⟩ := flatten_returns hwhole service
    obtain ⟨s, hruns, rfl, -, hsound⟩ := exists_sound_of_linked hlinked hresult
    have hdistinct := (hsound.ownNames hruns hunnested).distinct hsound.tabled hapart
    have hcounted : Counted s := .of_moves (hruns.moves fun _ hmethod ↦ hmethod).1
    have hquiet : warnings s.events = [] := hcounted.warnings_eq_nil_iff.mpr hdistinct
    have hstrict := (flatten_stops schema service).strict_eq rfl
    rw [hresult] at hstrict
    exact ⟨_, hstrict.trans (stopped_of_quiet hquiet)⟩

/-! ### Records under two tables -/

variable {given other : List (String × String)}

/-- Assumes: whole entries, and two tables that have each reachable type under its own name. They
give a reachable message the same record. -/
theorem AllNamed.flatMessage_eq (h : AllNamed schema service given)
    (hother : AllNamed schema service other) (hwhole : schema.WholeEntries) {message : Message}
    (hreachable : schema.Reachable service (.message message)) :
    schema.flatMessage given message = schema.flatMessage other message := by
  have hname : given.lookup message.fullName = other.lookup message.fullName :=
    (h _ hreachable).trans (hother _ hreachable).symm
  have hfields : message.fields.map (schema.flatField given) =
      message.fields.map (schema.flatField other) := by
    refine List.map_congr_left fun field hfield ↦ ?_
    obtain ⟨subject, hsubject⟩ := Option.isSome_iff_exists.mp (hwhole.isSome_subject? field)
    refine Schema.flatField_congr hsubject fun htext ↦ ?_
    unfold Schema.referentName
    cases hreferent : schema.referent? subject with
    | none => rfl
    | some type =>
      have hshown : type.isTimestamp = false := by simpa [Schema.isText, hreferent] using htext
      have htype : schema.Reachable service type :=
        .field hreachable hfield hsubject hreferent hshown
      rw [Option.bind_some, Option.bind_some, h type htype, hother type htype]
  unfold Schema.flatMessage
  rw [hname, hfields]

theorem AllNamed.flatEnum_eq (h : AllNamed schema service given)
    (hother : AllNamed schema service other) {enum : Enum}
    (hreachable : schema.Reachable service (.enum enum)) :
    Schema.flatEnum given enum = Schema.flatEnum other enum := by
  have hname : given.lookup enum.fullName = other.lookup enum.fullName :=
    (h _ hreachable).trans (hother _ hreachable).symm
  unfold Schema.flatEnum
  rw [hname]

theorem AllNamed.congr (h : AllNamed schema service given) {service' : Service}
    (hreach : schema.Reachable service = schema.Reachable service') :
    AllNamed schema service' given :=
  fun type hreachable ↦ h type (hreach ▸ hreachable)

theorem Complete.congr {flat : Record.Service} (h : Complete schema service given flat)
    {service' : Service} (hreach : schema.Reachable service = schema.Reachable service') :
    Complete schema service' given flat :=
  ⟨hreach ▸ h.messages, hreach ▸ h.enums, h.names⟩

/-- Lists with the same elements, each once, have permuted images under functions that agree on
them. -/
theorem map_perm_map_of_mem_iff {α β : Type} {f g : α → β} {P : α → Prop} {first second : List α}
    (hfirst : first.Nodup) (hsecond : second.Nodup) (hmemFirst : ∀ a, a ∈ first ↔ P a)
    (hmemSecond : ∀ a, a ∈ second ↔ P a) (hagree : ∀ a, P a → f a = g a) :
    (first.map f).Perm (second.map g) := by
  have hperm : first.Perm second :=
    (List.perm_ext_iff_of_nodup hfirst hsecond).mpr fun a ↦ (hmemFirst a).trans (hmemSecond a).symm
  have heq : second.map f = second.map g :=
    List.map_congr_left fun a ha ↦ hagree a ((hmemSecond a).mp ha)
  exact heq ▸ hperm.map f

/-- Assumes: whole entries, and records that are complete by two tables, which have each reachable
type under its own name. The records are the same, in some order. -/
theorem Complete.perm {first second : Record.Service} (hwhole : schema.WholeEntries)
    (hgiven : AllNamed schema service given) (hother : AllNamed schema service other)
    (hfirst : Complete schema service given first)
    (hsecond : Complete schema service other second) :
    first.messages.Perm second.messages ∧ first.enums.Perm second.enums := by
  obtain ⟨messages, hnodup, hmem, hmessages⟩ := hfirst.messages
  obtain ⟨messages', hnodup', hmem', hmessages'⟩ := hsecond.messages
  obtain ⟨enums, hnodupEnums, hmemEnums, henums⟩ := hfirst.enums
  obtain ⟨enums', hnodupEnums', hmemEnums', henums'⟩ := hsecond.enums
  rw [hmessages, hmessages', henums, henums']
  constructor
  · exact map_perm_map_of_mem_iff hnodup hnodup' hmem hmem' fun _ hreachable ↦
      hgiven.flatMessage_eq hother hwhole hreachable
  · exact map_perm_map_of_mem_iff hnodupEnums hnodupEnums' hmemEnums hmemEnums'
      fun _ hreachable ↦ hgiven.flatEnum_eq hother hreachable

end Outcome

end Flattening

/-- Assumes: a linked descriptor set in which each entry of a map has a key and a value, and a
service of one of its files that reaches no nested type. With its methods in any other order, a
strict run returns just if it returns on the service, and then with the same messages, enums and
calls, in some order. -/
theorem flatten_perm {set : List Descriptor.File} {schema : Schema} {file : File}
    {service : Service} {methods : List Method} (hlink : Schema.link set = .ok schema)
    (hfile : file ∈ schema.files) (hservice : service ∈ file.services)
    (hwhole : schema.WholeEntries) (hunnested : schema.Unnested service)
    (hperm : methods.Perm service.methods) :
    (Returns (flatten schema true { service with methods }) ↔
      Returns (flatten schema true service)) ∧
    ∀ result permuted, flatten schema true service = .ok result →
      flatten schema true { service with methods } = .ok permuted →
        permuted.service.messages.Perm result.service.messages ∧
        permuted.service.enums.Perm result.service.enums ∧
        permuted.service.calls.Perm result.service.calls := by
  have hlinked := (Schema.linked_of_link hlink).method file hfile service hservice
  have hlinkedPerm : ∀ method ∈ methods, schema.MethodLinked method :=
    fun method hmethod ↦ hlinked method (hperm.mem_iff.mp hmethod)
  have hreach : schema.Reachable { service with methods } = schema.Reachable service :=
    Schema.reachable_eq_of_perm hperm
  have hunnestedPerm := (Schema.unnested_congr hreach).mpr hunnested
  constructor
  · rw [returns_strict_iff hlinked hwhole hunnested,
      returns_strict_iff hlinkedPerm hwhole hunnestedPerm]
    exact Schema.namesApart_congr hreach
  · intro result permuted hresult hpermuted
    obtain ⟨given, hgiven, hcomplete, -, hcalls⟩ :=
      exists_complete_of_strict hlinked hunnested hresult
    obtain ⟨other, hother, hcompletePerm, -, hcallsPerm⟩ :=
      exists_complete_of_strict hlinkedPerm hunnestedPerm hpermuted
    obtain ⟨hmessages, henums⟩ := Complete.perm hwhole (hother.congr hreach) hgiven
      (hcompletePerm.congr hreach) hcomplete
    refine ⟨hmessages, henums, ?_⟩
    rw [hcalls, hcallsPerm]
    exact hperm.filterMap _

namespace Club

/-- The descriptors of a club. -/
def descriptors : List Descriptor.File :=
  [{ name := "club.proto"
     package := "club"
     messages := [
       { name := "Member"
         fields := [
           { name := "teams", jsonName := some "teams", type := .message, repeated := true
             typeName := ".club.Member.TeamsEntry" },
           { name := "rank", jsonName := some "rank", type := .enum, typeName := ".club.Rank" }]
         messages := [
           { name := "TeamsEntry"
             mapEntry := true
             fields := [
               { name := "key", jsonName := some "key", type := .string },
               { name := "value", jsonName := some "value", type := .message
                 typeName := ".club.Team" }] }] },
       { name := "Team"
         fields := [
           { name := "members", jsonName := some "members", type := .message, repeated := true
             typeName := ".club.Member" }] }]
     enums := [{ name := "Rank", values := [("GUEST", 0)] }]
     services := [
       { name := "Club"
         methods := [
           { name := "Join", input := ".club.Member", output := ".club.Team"
             rule := some ⟨some (.post "/members")⟩ },
           { name := "Found", input := ".club.Team", output := ".club.Team"
             rule := some ⟨some (.post "/teams")⟩ }] }] }]

/-- An entry of the teams of a member. -/
def teamsEntry : Message :=
  ⟨"TeamsEntry", ".club.Member.TeamsEntry", "", true, some ".club.Member", [
    ⟨"key", "key", .string, false, "", .scalar⟩,
    ⟨"value", "value", .message, false, "", .message ".club.Team"⟩], [], []⟩

/-- A member, with teams by name. -/
def member : Message :=
  ⟨"Member", ".club.Member", "", false, none, [
    ⟨"teams", "teams", .message, true, "", .message ".club.Member.TeamsEntry"⟩,
    ⟨"rank", "rank", .enum, false, "", .enum ".club.Rank"⟩], [teamsEntry], []⟩

/-- A team, which leads back to its members. -/
def team : Message :=
  ⟨"Team", ".club.Team", "", false, none,
    [⟨"members", "members", .message, true, "", .message ".club.Member"⟩], [], []⟩

/-- The rank of a member. -/
def rank : Enum :=
  ⟨"Rank", ".club.Rank", "", none, [⟨"GUEST", 0, ""⟩]⟩

/-- The method that members use. -/
def join : Method :=
  ⟨"Join", ".club.Member", ".club.Team", false, false, "", some ⟨some (.post "/members")⟩⟩

/-- The method that teams use. -/
def found : Method :=
  ⟨"Found", ".club.Team", ".club.Team", false, false, "", some ⟨some (.post "/teams")⟩⟩

/-- The service of the club. -/
def service : Service :=
  ⟨"Club", "", "club.proto", [join, found]⟩

/-- The file of the club. -/
def file : File :=
  ⟨"club.proto", "club", [member, team], [rank], [service]⟩

/-- The linked club. -/
def schema : Schema :=
  ⟨[file]⟩

/-- The record of a member. -/
def flatMember : Record.Message :=
  ⟨"Member", "", [
    ⟨"teams", "TYPE_MESSAGE", .map "TYPE_STRING" "TYPE_MESSAGE" "Team", ""⟩,
    ⟨"rank", "TYPE_ENUM", .reference "Rank" false, ""⟩]⟩

/-- The record of a team. -/
def flatTeam : Record.Message :=
  ⟨"Team", "", [⟨"members", "TYPE_MESSAGE", .reference "Member" true, ""⟩]⟩

/-- The result of flattening the club, where members come first. -/
def result : Result where
  service := {
    name := "Club"
    comment := ""
    calls := [
      ⟨"Join", "POST", "/members", "Member", "Team", ""⟩,
      ⟨"Found", "POST", "/teams", "Team", "Team", ""⟩]
    messages := [flatTeam, flatMember]
    enums := [⟨"Rank", "", [⟨"GUEST", 0, ""⟩]⟩] }
  visits := [⟨"Member", ".club.Member", 0⟩, ⟨"Team", ".club.Team", 0⟩]
  events := []

theorem link_eq : Schema.link descriptors = .ok schema := by
  rfl

theorem flatten_eq : flatten schema true service = .ok result := by
  simp only [flatten, service, List.foldlM_cons, List.foldlM_nil, Context.walkMethod,
    Context.walkRoute, Context.walkMessage, Context.drain_eq]
  decide +kernel

theorem wholeEntries : schema.WholeEntries := by
  intro message hmessage hentry
  have htypes : message = member ∨ message = teamsEntry ∨ message = team := by
    simpa [Schema.types, schema, file, File.types, typesOfMessages, Message.types, member,
      teamsEntry, team] using hmessage
  rcases htypes with rfl | rfl | rfl
  · cases hentry
  · exact Nat.le_refl 2
  · cases hentry

/-- The types of the club lead to each other, and to no others. -/
theorem eq_of_reachable {type : NamedType} (h : schema.Reachable service type) :
    type = .message member ∨ type = .message team ∨ type = .enum rank := by
  have hmember : schema.message? ".club.Member" = some member := rfl
  have hteam : schema.message? ".club.Team" = some team := rfl
  induction h with
  | root hroot =>
    cases hroot with
    | @input method message hmethod _ howner =>
      rcases List.mem_pair.mp hmethod with rfl | rfl
      · exact .inl (congrArg _ (Option.some.inj (howner.symm.trans hmember)))
      · exact .inr (.inl (congrArg _ (Option.some.inj (howner.symm.trans hteam))))
    | @output method message hmethod _ howner =>
      rcases List.mem_pair.mp hmethod with rfl | rfl
      · exact .inr (.inl (congrArg _ (Option.some.inj (howner.symm.trans hteam))))
      · exact .inr (.inl (congrArg _ (Option.some.inj (howner.symm.trans hteam))))
  | @field message field subject type _ hfield hsubject hreferent _ ih =>
    rcases ih with heq | heq | heq
    · cases heq
      rcases List.mem_pair.mp hfield with rfl | rfl
      · cases hsubject
        exact .inr (.inl (Option.some.inj hreferent.symm))
      · cases hsubject
        exact .inr (.inr (Option.some.inj hreferent.symm))
    · cases heq
      obtain rfl := List.mem_singleton.mp hfield
      cases hsubject
      exact .inl (Option.some.inj hreferent.symm)
    · cases heq

theorem unnested : schema.Unnested service := by
  intro type hreachable
  rcases eq_of_reachable hreachable with rfl | rfl | rfl <;> rfl

/-- With its methods the other way round, the club has the same records. -/
theorem founded_first :
    Returns (flatten schema true { service with methods := [found, join] }) ∧
      ∀ permuted, flatten schema true { service with methods := [found, join] } = .ok permuted →
        permuted.service.messages.Perm [flatTeam, flatMember] ∧
        permuted.service.enums.Perm result.service.enums ∧
        permuted.service.calls.Perm result.service.calls := by
  have hperm : [found, join].Perm service.methods := List.Perm.swap _ _ _
  obtain ⟨hreturns, hrecords⟩ := flatten_perm link_eq (List.mem_singleton_self file)
    (List.mem_singleton_self service) wholeEntries unnested hperm
  exact ⟨hreturns.mpr ⟨result, flatten_eq⟩, fun permuted hpermuted ↦
    hrecords result permuted flatten_eq hpermuted⟩

end Club

end ClientGen
