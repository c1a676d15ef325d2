import ClientGen.Proofs.Composition
import ClientGen.Proofs.Flattening.Counting

/-!
# Flattening in a larger schema

A run only follows links, from the methods of its service on. So in a schema that leads each owned
name to where a smaller one leads it (`Schema.Embeds`), it takes the same steps as in the smaller
one, as long as the links of the fields it waits for have owners there (`Walkable`), and stops or
fails where the other does. With `ClientGen.Proofs.Composition`, this holds of descriptor sets: what
is generated for a service depends neither on the order of the files nor on files that have nothing
to do with it (`flatten_of_subset`). In `Depot` the files are shuffled, and a yard is added.
-/

set_option autoImplicit false
set_option relaxedAutoImplicit false

namespace ClientGen

open Declaration Flattening Relation

/-- Each name that the one schema owns leads to the same type in the other. -/
def Schema.Embeds (part whole : Schema) : Prop :=
  ∀ fullName type, part.owner? fullName = some type → whole.owner? fullName = some type

/-! ### Links lead to the same types -/

namespace Schema.Embeds

variable {part whole : Schema} {fullName : String} {field : Field}

theorem message? (h : part.Embeds whole) {message : Message}
    (hmessage : part.message? fullName = some message) :
    whole.message? fullName = some message :=
  message?_eq_some_iff.mpr (h _ _ (message?_eq_some_iff.mp hmessage))

theorem enum? (h : part.Embeds whole) {enum : Enum} (henum : part.enum? fullName = some enum) :
    whole.enum? fullName = some enum :=
  enum?_eq_some_iff.mpr (h _ _ (enum?_eq_some_iff.mp henum))

theorem fieldMessage?_eq (h : part.Embeds whole) (hfield : part.FieldLinked field) :
    whole.fieldMessage? field = part.fieldMessage? field := by
  unfold FieldLinked at hfield
  unfold fieldMessage?
  split at hfield
  · obtain ⟨message, hlink, howner⟩ := hfield
    simp only [hlink, howner, h.message? howner]
  · obtain ⟨enum, hlink, -⟩ := hfield
    simp only [hlink]
  · simp only [hfield]

theorem mapEntry?_eq (h : part.Embeds whole) (hfield : part.FieldLinked field) :
    whole.mapEntry? field = part.mapEntry? field := by
  unfold Schema.mapEntry?
  rw [h.fieldMessage?_eq hfield]

end Schema.Embeds

namespace Flattening

/-- The fields that the messages of a run still wait for are linked. -/
def Walkable (schema : Schema) (s : State) : Prop :=
  ∀ frame ∈ s.stack, ∀ field ∈ frame.pending, schema.FieldLinked field

section Steps

variable {c : Context} {s t : State}

/-- The frame of a walk that begins waits for the fields of a declared message. -/
theorem Naming.frame_linked (hlinked : c.schema.Linked) {type : NamedType}
    {around : Option String} {name : String} {frame : Option Frame}
    (h : Naming c s type around name frame t) (htype : type ∈ c.schema.types) :
    ∀ started ∈ frame.toList, ∀ field ∈ started.pending, c.schema.FieldLinked field := by
  cases h with
  | @message message =>
    intro started hstarted
    obtain rfl := List.mem_singleton.mp hstarted
    exact hlinked.field message htype
  | known | sharedMessage | enum | sharedEnum =>
    intro started hstarted
    cases hstarted

theorem Targeting.frame_linked (hlinked : c.schema.Linked) {field : Field} {around : String}
    {target : Target} {frame : Option Frame} (h : Targeting c s field around target frame t) :
    ∀ started ∈ frame.toList, ∀ field ∈ started.pending, c.schema.FieldLinked field := by
  cases h with
  | scalar | timestamp =>
    intro started hstarted
    cases hstarted
  | named hreferent _ hnaming =>
    exact hnaming.frame_linked hlinked
      (Schema.mem_types_of_owner? (Schema.owner?_of_referent? hreferent))

/-- A step waits for fewer fields, or for those of a message that it begins. -/
theorem Walkable.advance (hlinked : c.schema.Linked) (h : Walkable c.schema s)
    (hadvance : Advance c s t) : Walkable c.schema t := by
  cases hadvance with
  | @finish top rest hstack _ =>
    intro frame hframe
    exact h frame (hstack ▸ List.mem_cons_of_mem top hframe)
  | @field top rest field subject pending target frame u hstack hpending _ htargeting =>
    intro frame hframe inner hinner
    rcases List.mem_append.mp hframe with hstarted | hframe
    · exact htargeting.frame_linked hlinked frame hstarted inner hinner
    · rcases List.mem_cons.mp hframe with rfl | hframe
      · exact h top (by simp [hstack]) inner (hpending ▸ List.mem_cons_of_mem field hinner)
      · exact h frame (by simp [hstack, hframe]) inner hinner

end Steps

/-! ### The same steps -/

namespace Context

section Same

variable {part whole : Schema} {service : String} {strict : Bool} {s : State}
  (hlinked : part.Linked) (hembeds : part.Embeds whole)

include hembeds

theorem reach_eq_of_embeds {field : Field} (hfield : part.FieldLinked field) (around : String) :
    reach ⟨whole, service, strict⟩ field around s =
      reach ⟨part, service, strict⟩ field around s := by
  unfold Schema.FieldLinked at hfield
  unfold reach
  split at hfield
  · obtain ⟨message, hlink, howner⟩ := hfield
    simp only [hlink, howner, hembeds.message? howner]
    rfl
  · obtain ⟨enum, hlink, howner⟩ := hfield
    simp only [hlink, howner, hembeds.enum? howner]
    rfl
  · simp only [hfield]

include hlinked

theorem walkField_eq_of_embeds {field : Field} (hfield : part.FieldLinked field)
    (around : String) :
    walkField ⟨whole, service, strict⟩ around field s =
      walkField ⟨part, service, strict⟩ around field s := by
  unfold walkField
  dsimp only
  rw [hembeds.mapEntry?_eq hfield]
  split
  · rw [reach_eq_of_embeds hembeds hfield]
  · next entry hentry =>
    split
    · next key value rest hfields =>
      have hpair : part.entry? field = some (key, value) := by
        simp [Schema.entry?, hentry, hfields]
      obtain ⟨message, hmessage, -, hvalue⟩ := Schema.exists_message_of_entry? hpair
      rw [reach_eq_of_embeds hembeds (hlinked.field message hmessage value hvalue)]
    · rfl

theorem step_eq_of_embeds (hwalkable : Walkable part s) :
    step ⟨whole, service, strict⟩ s = step ⟨part, service, strict⟩ s := by
  unfold step
  split
  · rfl
  · next top rest hstack =>
    split
    · rfl
    · next field pending hpending =>
      have hfield : part.FieldLinked field :=
        hwalkable top (by simp [hstack]) field (by simp [hpending])
      rw [walkField_eq_of_embeds hlinked hembeds hfield]

/-- The walk of the smaller schema carries the induction: its steps keep the run walkable, and each
of them is the step of the larger one. -/
theorem drain_eq_of_embeds (hwalkable : Walkable part s) :
    drain ⟨whole, service, strict⟩ s = drain ⟨part, service, strict⟩ s := by
  induction s using drain.induct ⟨part, service, strict⟩ with
  | case1 s hidle => rw [drain_idle hidle, drain_idle hidle]
  | case2 s hstack halt hstep =>
    rw [drain_busy hstack, drain_busy hstack, step_eq_of_embeds hlinked hembeds hwalkable, hstep]
    rfl
  | case3 s hstack t hstep ih =>
    rw [drain_busy hstack, drain_busy hstack, step_eq_of_embeds hlinked hembeds hwalkable, hstep]
    exact ih (hwalkable.advance hlinked (step_advance hstack hstep))

theorem walkMessage_eq_of_embeds {message : Message} (hmessage : .message message ∈ part.types)
    (hidle : s.stack = []) :
    walkMessage ⟨whole, service, strict⟩ message s =
      walkMessage ⟨part, service, strict⟩ message s := by
  have hreachEq : reachMessage ⟨whole, service, strict⟩ message none s =
      reachMessage ⟨part, service, strict⟩ message none s := rfl
  rw [walkMessage, walkMessage, hreachEq]
  cases hreach : reachMessage ⟨part, service, strict⟩ message none s with
  | error halt => rfl
  | ok reached =>
    obtain ⟨name, frame, t⟩ := reached
    have hnaming := reachMessage_naming hreach
    refine drain_eq_of_embeds hlinked hembeds ?_
    intro started hstarted
    rcases List.mem_append.mp hstarted with hstarted | hstarted
    · exact hnaming.frame_linked hlinked hmessage started hstarted
    · rw [hnaming.stack_eq, hidle] at hstarted
      cases hstarted

theorem walkRoute_eq_of_embeds {method : Method} {route : Route} {input output : Message}
    (hinput : .message input ∈ part.types) (houtput : .message output ∈ part.types)
    (hidle : s.stack = []) :
    walkRoute ⟨whole, service, strict⟩ method route input output s =
      walkRoute ⟨part, service, strict⟩ method route input output s := by
  rw [walkRoute, walkRoute, walkMessage_eq_of_embeds hlinked hembeds hinput hidle]
  cases hwalk : walkMessage ⟨part, service, strict⟩ input s with
  | error halt => rfl
  | ok t =>
    obtain ⟨_, _, _, -, -, hidleNext⟩ := walkMessage_naming hwalk
    change walkMessage _ output t >>= _ = walkMessage _ output t >>= _
    rw [walkMessage_eq_of_embeds hlinked hembeds houtput hidleNext]

theorem walkMethod_eq_of_embeds {method : Method} (hmethod : part.MethodLinked method)
    (hidle : s.stack = []) :
    walkMethod ⟨whole, service, strict⟩ s method =
      walkMethod ⟨part, service, strict⟩ s method := by
  obtain ⟨input, hinput⟩ := Option.isSome_iff_exists.mp hmethod.input
  obtain ⟨output, houtput⟩ := Option.isSome_iff_exists.mp hmethod.output
  cases hroute : method.route? with
  | none =>
    rw [walkMethod_of_unusable hroute, walkMethod_of_unusable hroute]
    rfl
  | some route =>
    rw [walkMethod_of_usable hroute (hembeds.message? hinput) (hembeds.message? houtput),
      walkMethod_of_usable hroute hinput houtput]
    exact walkRoute_eq_of_embeds hlinked hembeds (mem_types_of_message? hinput)
      (mem_types_of_message? houtput) hidle

/-- Between two methods no message is being walked, so that a run goes on alike in both. -/
theorem run_eq_of_embeds {declaration : Service}
    (hmethods : ∀ method ∈ declaration.methods, part.MethodLinked method) {methods : List Method}
    (hmem : ∀ method ∈ methods, method ∈ declaration.methods) :
    run ⟨whole, service, strict⟩ methods = run ⟨part, service, strict⟩ methods := by
  induction methods using List.reverseRecOn with
  | nil => rfl
  | append_singleton before last ih =>
    have hmemBefore : ∀ method ∈ before, method ∈ declaration.methods :=
      fun method hmethod ↦ hmem method (List.mem_append_left _ hmethod)
    rw [run_concat, run_concat, ih hmemBefore]
    cases hrun : run ⟨part, service, strict⟩ before with
    | error halt => rfl
    | ok s =>
      have hruns : Runs ⟨part, service, strict⟩ before s :=
        .of_eq_ok (fun method hmethod ↦ hmethods method (hmemBefore method hmethod)) hrun
      obtain ⟨-, hidle⟩ := hruns.moves hmemBefore
      exact walkMethod_eq_of_embeds hlinked hembeds (hmethods last (hmem last (by simp))) hidle

end Same

end Context

/-- Assumes: a linked schema inside another one, and a service of one of its files. Flattening the
service gives the same in both, whether that is a result or a failure. -/
theorem flatten_eq_of_embeds {part whole : Schema} (hlinked : part.Linked)
    (hembeds : part.Embeds whole) {file : File} {service : Service} (hfile : file ∈ part.files)
    (hservice : service ∈ file.services) (strict : Bool) :
    flatten whole strict service = flatten part strict service := by
  have hrun : Context.run ⟨whole, service.name, strict⟩ service.methods =
      Context.run ⟨part, service.name, strict⟩ service.methods :=
    Context.run_eq_of_embeds hlinked hembeds (hlinked.method file hfile service hservice)
      fun _ hmethod ↦ hmethod
  exact congrArg (Except.map fun s ↦ s.result service) hrun

end Flattening

/-- Assumes: two linked descriptor sets, the larger of which declares no full name twice and has
every file of the smaller one, at whatever place. Then each file is linked to the same declarations
in both, each reference leads to the same type, and each service of the smaller set is flattened to
the same result, or fails with the same events and the same failure, in both and in either mode. -/
theorem flatten_of_subset {small large : List Descriptor.File} {part whole : Schema}
    (hpart : Schema.link small = .ok part) (hwhole : Schema.link large = .ok whole)
    (hunique : ((large.flatMap Linking.namesOfFile).map Prod.fst).Nodup)
    (hsubset : ∀ descriptor ∈ small, descriptor ∈ large) :
    (∀ (i j : Nat) descriptor, small[i]? = some descriptor → large[j]? = some descriptor →
        ∃ file, part.files[i]? = some file ∧ whole.files[j]? = some file) ∧
      (∀ fullName type, part.owner? fullName = some type →
        whole.owner? fullName = some type) ∧
      ∀ file ∈ part.files, ∀ service ∈ file.services, ∀ strict,
        flatten whole strict service = flatten part strict service := by
  have hembeds : part.Embeds whole := fun _ _ ↦ owner?_of_subset hpart hwhole hunique hsubset
  refine ⟨fun _ _ _ ↦ files_of_subset hpart hwhole hunique hsubset, hembeds, ?_⟩
  intro file hfile service hservice strict
  exact flatten_eq_of_embeds (Schema.linked_of_link hpart) hembeds hfile hservice strict

namespace Depot

/-- The descriptors of the depot in another order, with a yard that has items of its own. -/
def shuffled : List Descriptor.File :=
  { name := "yard.proto", package := "yard", messages := [{ name := "Item" }] } ::
    descriptors.reverse

/-- The linked depot with its yard. -/
def shuffledSchema : Schema :=
  ⟨⟨"yard.proto", "yard", [⟨"Item", ".yard.Item", "", false, none, [], [], []⟩], [], []⟩ ::
    schema.files.reverse⟩

theorem link_shuffled_eq : Schema.link shuffled = .ok shuffledSchema := by
  rfl

theorem shuffled_flattens_alike :
    ((shuffled.flatMap Linking.namesOfFile).map Prod.fst).Nodup ∧
      (∀ descriptor ∈ descriptors, descriptor ∈ shuffled) ∧
      shuffledSchema.files[1]? = schema.files[2]? ∧
      flatten shuffledSchema false service = .ok result ∧
      flatten shuffledSchema true service =
        .error ⟨.collision (.mixed "Item" "Depot" ".depot.Item" ".kinds.Item"), []⟩ := by
  have hunique : ((shuffled.flatMap Linking.namesOfFile).map Prod.fst).Nodup := by decide
  have hsubset : ∀ descriptor ∈ descriptors, descriptor ∈ shuffled := fun _ hdescriptor ↦
    List.mem_cons_of_mem _ (List.mem_reverse.mpr hdescriptor)
  obtain ⟨hfiles, -, hflatten⟩ := flatten_of_subset link_eq link_shuffled_eq hunique hsubset
  obtain ⟨linked, hlinked, hmoved⟩ := hfiles 2 1 _ rfl rfl
  have hservice := hflatten file file_mem service service_mem
  exact ⟨hunique, hsubset, hmoved.trans hlinked.symm, (hservice false).trans flatten_eq,
    (hservice true).trans flatten_strict_eq⟩

end Depot

end ClientGen
