import ClientGen.Proofs.Flattening.Faithfulness

/-!
# The types of calls

A call writes the names under which its request and response are declared. The flat name of a
message is that name if the message is not nested, or if a call is the first to reach it
(`CalledFirst`); a nested message that a field reaches first has the name of the message around the
field in front of its own. `Shaped` says so of all names in the table, and every method keeps it.
So the types of a call are the names of records just in the first two cases (`flatten_calls`), and
a client may name an interface that it does not declare (`Shop.find_undeclared`).
-/

set_option autoImplicit false
set_option relaxedAutoImplicit false

namespace ClientGen

open Declaration Flattening Relation

namespace Declaration.NamedType

/-- The name under which a type is declared. -/
def name : NamedType → String
  | message declaration => declaration.name
  | enum declaration => declaration.name

/-- The full name of the message around a type. -/
def parent : NamedType → Option String
  | message declaration => declaration.parent
  | enum declaration => declaration.parent

end Declaration.NamedType

namespace Flattening

/-! ### The shape of a flat name -/

theorem flatName_some_eq_iff {name around : String} {parent : Option String} :
    flatName name parent (some around) = name ↔ parent = none := by
  cases parent with
  | none => simp [flatName]
  | some parent => simp [flatName]

/-- A type that gets a name gets the one under which it is reached. -/
theorem Naming.name_eq {c : Context} {s t : State} {type : NamedType} {around : Option String}
    {name : String} {frame : Option Frame} (h : Naming c s type around name frame t)
    (hfresh : s.flatName? type.fullName = none) :
    name = flatName type.name type.parent around := by
  cases h with
  | known hnamed =>
    rw [hfresh] at hnamed
    cases hnamed
  | message => rfl
  | sharedMessage => rfl
  | enum => rfl
  | sharedEnum => rfl

/-- A name that a walk gives to a type: the type was not named, and is reached by a field. -/
def WalkNamed (c : Context) (s : State) (fullName name : String) : Prop :=
  s.flatName? fullName = none ∧ ∃ type around, c.schema.owner? fullName = some type ∧
    name = flatName type.name type.parent (some around)

section Walks

variable {c : Context} {s t : State} {fullName name : String}

theorem WalkNamed.of_grows (hgrows : s.given <+: t.given) (h : WalkNamed c t fullName name) :
    WalkNamed c s fullName name := by
  refine ⟨?_, h.2⟩
  by_contra hnamed
  have hlater := State.isSome_flatName?_of_grows hgrows (Option.isSome_iff_ne_none.mpr hnamed)
  simp [h.1] at hlater

theorem Targeting.mem_given {field : Field} {around : String} {target : Target}
    {frame : Option Frame} (h : Targeting c s field around target frame t)
    (hmem : (fullName, name) ∈ t.given) :
    (fullName, name) ∈ s.given ∨ WalkNamed c s fullName name := by
  cases h with
  | scalar => exact .inl hmem
  | timestamp => exact .inl hmem
  | @named type flat _ _ hreferent _ hnaming =>
    rcases hnaming.mem_given hmem with hmem | ⟨hfresh, hnew⟩
    · exact .inl hmem
    · cases hnew
      exact .inr ⟨hfresh, type, around, Schema.owner?_of_referent? hreferent,
        hnaming.name_eq hfresh⟩

theorem Advance.mem_given (h : Advance c s t) (hmem : (fullName, name) ∈ t.given) :
    (fullName, name) ∈ s.given ∨ WalkNamed c s fullName name := by
  cases h with
  | finish => exact .inl hmem
  | field _ _ _ htargeting => exact htargeting.mem_given hmem

theorem mem_given_of_advances (h : ReflTransGen (Advance c) s t)
    (hmem : (fullName, name) ∈ t.given) :
    (fullName, name) ∈ s.given ∨ WalkNamed c s fullName name := by
  induction h with
  | refl => exact .inl hmem
  | tail hadvances hadvance ih =>
    rcases hadvance.mem_given hmem with hmem | hwalk
    · exact ih hmem
    · exact .inr (hwalk.of_grows (given_grows_of_advances hadvances))

/-- What walking a message adds to the table: the message under its own name, and the types that
its walk reaches. -/
theorem Context.walkMessage_mem_given {message : Message} (h : c.walkMessage message s = .ok t)
    (hmem : (fullName, name) ∈ t.given) :
    (fullName, name) ∈ s.given ∨
      (s.flatName? fullName = none ∧ fullName = message.fullName ∧ name = message.name) ∨
      (fullName ≠ message.fullName ∧ WalkNamed c s fullName name) := by
  obtain ⟨flat, frame, u, hnaming, hadvances, -⟩ := walkMessage_naming h
  rcases mem_given_of_advances hadvances hmem with hmem | hwalk
  · change (fullName, name) ∈ u.given at hmem
    rcases hnaming.mem_given hmem with hmem | ⟨hfresh, hnew⟩
    · exact .inl hmem
    · cases hnew
      refine .inr (.inl ⟨hfresh, rfl, ?_⟩)
      rw [hnaming.name_eq hfresh]
      rfl
  · change WalkNamed c u fullName name at hwalk
    refine .inr (.inr ⟨?_, hwalk.of_grows hnaming.given_grows⟩)
    rintro rfl
    have hnamed := hnaming.flatName?_eq
    rw [show u.flatName? (NamedType.message message).fullName = none from hwalk.1] at hnamed
    cases hnamed

end Walks

/-! ### Types that a call is the first to reach -/

/-- A method calls a message that has no name when its turn comes: as its input, or as its output
after the walk of the input. -/
inductive CallsFresh (c : Context) (s : State) (method : Method) (fullName : String) : Prop
  | input (usable : method.route?.isSome) (called : method.input = fullName)
      (fresh : s.flatName? fullName = none) : CallsFresh c s method fullName
  | output {input : Message} {t : State} (usable : method.route?.isSome)
      (called : method.output = fullName)
      (input_eq : c.schema.message? method.input = some input)
      (walked : c.walkMessage input s = .ok t) (fresh : t.flatName? fullName = none) :
      CallsFresh c s method fullName

/-- A call is the first to reach a message, in a run over methods. -/
def CalledFirst (c : Context) (methods : List Method) (fullName : String) : Prop :=
  ∃ before method after s, methods = before ++ method :: after ∧ c.run before = .ok s ∧
    CallsFresh c s method fullName

section Methods

variable {c : Context} {s t : State} {fullName name : String} {before : List Method}
  {method : Method}

theorem CallsFresh.flatName?_eq (h : CallsFresh c s method fullName) :
    s.flatName? fullName = none := by
  cases h with
  | input _ _ hfresh => exact hfresh
  | output _ _ _ hwalked hfresh =>
    by_contra hnamed
    have hlater := State.isSome_flatName?_of_grows (Context.walkMessage_given hwalked).1
      (Option.isSome_iff_ne_none.mpr hnamed)
    simp [hfresh] at hlater

theorem CallsFresh.eq_or_eq {input : Message} (hinput : c.schema.message? method.input = some input)
    (hwalked : c.walkMessage input s = .ok t) (h : CallsFresh c s method fullName) :
    method.input = fullName ∨ method.output = fullName ∧ t.flatName? fullName = none := by
  cases h with
  | input _ hcalled _ => exact .inl hcalled
  | output _ hcalled hother hother' hfresh =>
    rw [hinput] at hother
    cases hother
    rw [hwalked] at hother'
    cases hother'
    exact .inr ⟨hcalled, hfresh⟩

theorem calledFirst_concat_iff (hrun : c.run before = .ok s) :
    CalledFirst c (before ++ [method]) fullName ↔
      CalledFirst c before fullName ∨ CallsFresh c s method fullName := by
  constructor
  · rintro ⟨first, other, after, u, hsplit, hu, hfresh⟩
    rcases List.eq_nil_or_concat after with rfl | ⟨rest, last, rfl⟩
    · obtain ⟨rfl, hother⟩ := List.append_inj' hsplit rfl
      cases hother
      rw [hrun] at hu
      cases hu
      exact .inr hfresh
    · rw [List.concat_eq_append, ← List.cons_append, ← List.append_assoc] at hsplit
      obtain ⟨rfl, -⟩ := List.append_inj' hsplit rfl
      exact .inl ⟨first, other, rest, u, rfl, hu, hfresh⟩
  · rintro (⟨first, other, after, u, rfl, hu, hfresh⟩ | hfresh)
    · exact ⟨first, other, after ++ [method], u, by simp, hu, hfresh⟩
    · exact ⟨before, method, [], s, rfl, hrun, hfresh⟩

theorem CalledFirst.isSome_flatName? {methods : List Method} (hruns : Runs c methods s)
    (h : CalledFirst c methods fullName) : (s.flatName? fullName).isSome := by
  obtain ⟨first, method, after, u, rfl, -, hcalls⟩ := h
  have hmem : method ∈ first ++ method :: after := by simp
  cases hcalls with
  | input husable hcalled _ => exact hcalled ▸ (hruns.isSome_flatName? method hmem husable).1
  | output husable hcalled _ _ _ => exact hcalled ▸ (hruns.isSome_flatName? method hmem husable).2

/-- A name is that of a declared type: the one under which the type is declared, if a call is the
first to reach it, and else the one under which a field reaches it. -/
def Shaped (c : Context) (methods : List Method) (fullName name : String) : Prop :=
  ∃ type, c.schema.owner? fullName = some type ∧
    (CalledFirst c methods fullName ∧ name = type.name ∨
      ¬ CalledFirst c methods fullName ∧ ∃ around,
        name = flatName type.name type.parent (some around))

/-- What stands in the table is not fresh to the next method, so that it keeps its shape. -/
theorem Shaped.concat (hrun : c.run before = .ok s) (hmem : (fullName, name) ∈ s.given)
    (h : Shaped c before fullName name) : Shaped c (before ++ [method]) fullName name := by
  have hnot : ¬ CallsFresh c s method fullName := by
    intro hcalls
    have hnamed := State.isSome_flatName?_of_mem hmem
    simp [hcalls.flatName?_eq] at hnamed
  unfold Shaped
  rw [calledFirst_concat_iff hrun, or_iff_left hnot]
  exact h

theorem Shaped.of_callsFresh {message : Message} (hrun : c.run before = .ok s)
    (howner : c.schema.message? fullName = some message) (h : CallsFresh c s method fullName) :
    Shaped c (before ++ [method]) fullName message.name := by
  have hcalled := (calledFirst_concat_iff hrun).mpr (.inr h)
  exact ⟨.message message, Schema.message?_eq_some_iff.mp howner, .inl ⟨hcalled, rfl⟩⟩

theorem Shaped.of_walkNamed (hrun : c.run before = .ok s) (hwalk : WalkNamed c s fullName name)
    (hold : ¬ CalledFirst c before fullName) (hnew : ¬ CallsFresh c s method fullName) :
    Shaped c (before ++ [method]) fullName name := by
  obtain ⟨-, type, around, howner, hname⟩ := hwalk
  refine ⟨type, howner, .inr ⟨?_, around, hname⟩⟩
  rw [calledFirst_concat_iff hrun]
  rintro (hcalled | hfresh)
  · exact hold hcalled
  · exact hnew hfresh

/-- What a method adds to the table: the messages that it calls fresh, under their own names, and
the types that the walks of the two reach. -/
theorem mem_given_of_walks {input output : Message} {u : State} (husable : method.route?.isSome)
    (hinput : c.schema.message? method.input = some input)
    (houtput : c.schema.message? method.output = some output)
    (hwalkInput : c.walkMessage input s = .ok t) (hwalkOutput : c.walkMessage output t = .ok u)
    (hmem : (fullName, name) ∈ u.given) :
    (fullName, name) ∈ s.given ∨
      (CallsFresh c s method fullName ∧
        ∃ message, c.schema.message? fullName = some message ∧ name = message.name) ∨
      (WalkNamed c s fullName name ∧ ¬ CallsFresh c s method fullName) := by
  have hinputName := Schema.fullName_of_message? hinput
  have houtputName := Schema.fullName_of_message? houtput
  obtain ⟨hgrows, hinputNamed⟩ := Context.walkMessage_given hwalkInput
  rcases Context.walkMessage_mem_given hwalkOutput hmem with
    hmem | ⟨hfresh, rfl, rfl⟩ | ⟨hother, hwalk⟩
  · rcases Context.walkMessage_mem_given hwalkInput hmem with
      hmem | ⟨hfresh, rfl, rfl⟩ | ⟨hother, hwalk⟩
    · exact .inl hmem
    · rw [hinputName] at hfresh ⊢
      exact .inr (.inl ⟨.input husable rfl hfresh, input, hinput, rfl⟩)
    · refine .inr (.inr ⟨hwalk, fun hcalls ↦ ?_⟩)
      rcases hcalls.eq_or_eq hinput hwalkInput with rfl | ⟨-, hfresh⟩
      · exact hother hinputName.symm
      · have hnamed := State.isSome_flatName?_of_mem hmem
        simp [hfresh] at hnamed
  · rw [houtputName] at hfresh ⊢
    exact .inr (.inl ⟨.output husable rfl hinput hwalkInput hfresh, output, houtput, rfl⟩)
  · refine .inr (.inr ⟨hwalk.of_grows hgrows, fun hcalls ↦ ?_⟩)
    rcases hcalls.eq_or_eq hinput hwalkInput with rfl | ⟨rfl, -⟩
    · rw [hinputName, hwalk.1] at hinputNamed
      cases hinputNamed
    · exact hother houtputName.symm

/-- The names of a run have their shapes. -/
theorem Runs.shaped {methods : List Method} (h : Runs c methods s)
    (hmem : (fullName, name) ∈ s.given) : Shaped c methods fullName name := by
  induction h with
  | start => cases hmem
  | skip hruns _ ih => exact (ih hmem).concat hruns.eq_ok hmem
  | walk hruns hroute hinput houtput hwalkInput hwalkOutput ih =>
    rcases mem_given_of_walks (by simp [hroute]) hinput houtput hwalkInput hwalkOutput hmem with
      hmem | ⟨hcalls, message, howner, rfl⟩ | ⟨hwalk, hcalls⟩
    · exact (ih hmem).concat hruns.eq_ok hmem
    · exact .of_callsFresh hruns.eq_ok howner hcalls
    · refine .of_walkNamed hruns.eq_ok hwalk (fun hfirst ↦ ?_) hcalls
      have hnamed := hfirst.isSome_flatName? hruns
      simp [hwalk.1] at hnamed

/-! ### The calls of a run -/

theorem Naming.calls_eq {type : NamedType} {around : Option String} {frame : Option Frame}
    (h : Naming c s type around name frame t) : t.calls = s.calls := by
  cases h <;> rfl

theorem Advance.calls_eq (h : Advance c s t) : t.calls = s.calls := by
  cases h with
  | finish => rfl
  | field _ _ _ htargeting =>
    cases htargeting with
    | scalar => rfl
    | timestamp => rfl
    | named _ _ hnaming => exact hnaming.calls_eq

theorem Context.walkMessage_calls {message : Message} (h : c.walkMessage message s = .ok t) :
    t.calls = s.calls := by
  obtain ⟨_, frame, u, hnaming, hadvances, -⟩ := walkMessage_naming h
  have hcalls : t.calls = u.calls := by
    clear h hnaming
    induction hadvances with
    | refl => rfl
    | tail _ hadvance ih => rw [hadvance.calls_eq, ih]
  rw [hcalls, hnaming.calls_eq]

/-- The calls of a run are those of its usable methods, in order. -/
theorem Runs.calls {methods : List Method} (h : Runs c methods s) :
    List.Forall₂ (fun method call ↦ ∃ route input output, method.route? = some route ∧
        c.schema.message? method.input = some input ∧
        c.schema.message? method.output = some output ∧
        call = Context.callRecord method route input output)
      (methods.filter fun method ↦ method.route?.isSome) s.calls := by
  induction h with
  | start => exact .nil
  | @skip before method s _ hunusable ih =>
    have hnone : [method].filter (fun method ↦ method.route?.isSome) = [] := by simp [hunusable]
    rw [List.filter_append, hnone, List.append_nil]
    exact ih
  | @walk before method route input output s t u _ hroute hinput houtput hwalkInput
      hwalkOutput ih =>
    have hcalls : u.calls = s.calls := by
      rw [Context.walkMessage_calls hwalkOutput, Context.walkMessage_calls hwalkInput]
    have hone : [method].filter (fun method ↦ method.route?.isSome) = [method] := by simp [hroute]
    rw [List.filter_append, hone, hcalls]
    exact List.rel_append ih (.cons ⟨route, input, output, hroute, hinput, houtput, rfl⟩ .nil)

end Methods

/-- A text stands for a message in a call: it is the name under which the message is declared. The
message has a record under its flat name, which is that text just if the message is not nested, or a
call is the first to reach it. -/
def StandsFor (c : Context) (methods : List Method) (s : State) (fullName text : String) : Prop :=
  ∃ message name, c.schema.message? fullName = some message ∧ text = message.name ∧
    s.flatName? fullName = some name ∧ name ∈ s.messages.map Record.Message.name ∧
    (text = name ↔ message.parent = none ∨ CalledFirst c methods fullName)

theorem Sound.standsFor {c : Context} {service : Service} {s : State} (h : Sound c service s)
    (hidle : s.stack = []) {methods : List Method} (hruns : Runs c methods s) {fullName : String}
    {message : Message} (howner : c.schema.message? fullName = some message)
    (hnamed : (s.flatName? fullName).isSome) : StandsFor c methods s fullName message.name := by
  obtain rfl := Schema.fullName_of_message? howner
  obtain ⟨name, hname⟩ := Option.isSome_iff_exists.mp hnamed
  have hgiven := h.tabled.flatName?_eq_some_iff.mp hname
  refine ⟨message, name, howner, rfl, hname, h.mem_names_messages hidle hgiven howner, ?_⟩
  obtain ⟨type, htype, hshape⟩ := hruns.shaped hgiven
  rw [Schema.message?_eq_some_iff.mp howner] at htype
  cases htype
  rcases hshape with ⟨hcalled, rfl⟩ | ⟨hcalled, around, rfl⟩
  · exact iff_of_true rfl (.inr hcalled)
  · rw [or_iff_left hcalled, eq_comm]
    exact flatName_some_eq_iff

end Flattening

/-- Assumes: a linked descriptor set, a service of one of its files, and a result of flattening it.
The calls are those of the usable methods; what they write for their request and response is the
flat name of the message just if that is not nested, or a call is the first to reach it. -/
theorem flatten_calls {set : List Descriptor.File} {schema : Schema} {file : File}
    {service : Service} {strict : Bool} {result : Result} (hlink : Schema.link set = .ok schema)
    (hfile : file ∈ schema.files) (hservice : service ∈ file.services)
    (hresult : flatten schema strict service = .ok result) :
    ∃ s, Context.run ⟨schema, service.name, strict⟩ service.methods = .ok s ∧
      s.result service = result ∧
      List.Forall₂ (fun method call ↦
          StandsFor ⟨schema, service.name, strict⟩ service.methods s method.input call.request ∧
          StandsFor ⟨schema, service.name, strict⟩ service.methods s method.output call.response)
        (service.methods.filter fun method ↦ method.route?.isSome) result.service.calls := by
  obtain ⟨s, hruns, rfl, hidle, hsound⟩ := exists_sound_of_flatten hlink hfile hservice hresult
  refine ⟨s, hruns.eq_ok, rfl, ?_⟩
  have hmem : ∀ method ∈ service.methods.filter fun method ↦ method.route?.isSome,
      method ∈ service.methods ∧ method.route?.isSome :=
    fun method hmethod ↦ List.mem_filter.mp hmethod
  refine ((List.forall₂_and_left _ _).mpr ⟨hmem, hruns.calls⟩).imp ?_
  rintro method call ⟨⟨hmethod, husable⟩, route, input, output, -, hinput, houtput, rfl⟩
  obtain ⟨hinputNamed, houtputNamed⟩ := hruns.isSome_flatName? method hmethod husable
  constructor
  · exact hsound.standsFor hidle hruns hinput hinputNamed
  · exact hsound.standsFor hidle hruns houtput houtputNamed

theorem Shop.flat_calls :
    ∃ s, Context.run ⟨schema, "Shop", true⟩ service.methods = .ok s ∧ s.result service = result ∧
      List.Forall₂ (fun method call ↦
          StandsFor ⟨schema, "Shop", true⟩ service.methods s method.input call.request ∧
          StandsFor ⟨schema, "Shop", true⟩ service.methods s method.output call.response)
        (service.methods.filter fun method ↦ method.route?.isSome) flat.calls :=
  flatten_calls link_eq file_mem service_mem (flatten_eq true)

/-- The call that finds an order by its line names an interface that is not declared: the line was
reached by a field of the order, and is declared as `Order_Line`. -/
theorem Shop.find_undeclared :
    Schema.link descriptors = .ok schema ∧ file ∈ schema.files ∧ service ∈ file.services ∧
      (∀ strict, flatten schema strict service = .ok result) ∧
      ∃ call ∈ result.service.calls,
        call.request ∉ result.service.messages.map Record.Message.name :=
  ⟨link_eq, file_mem, service_mem, flatten_eq,
    ⟨"Find", "GET", "/lines", "Line", "Order", ""⟩, by decide, by decide⟩

end ClientGen
