import ClientGen.Proofs.Flattening.Calls
import ClientGen.Proofs.Flattening.History
import ClientGen.Proofs.Flattening.Writing

/-!
# Where flat names come from

A type has the name under which it is declared, if it is not nested or a call is the first to reach
it. Any other has the name of a message in front, and that message has a field that refers to the
type under just this name: at the moment the name is given the field is written into the frame of
the message, and what is written stays (`Prefixed.move`). So it stands in a record when the run
ends, whether or not the type got a record of its own (`flatten_prefixed`). Names that were given
stay, from any point of a run to any later one (`Course.flatName?_eq`).
-/

set_option autoImplicit false
set_option relaxedAutoImplicit false

namespace ClientGen

open Declaration Flattening Relation

namespace Flattening

/-! ### A name comes with the field that asked for it -/

/-- Every flat name is the one under which its type is declared, or has in front of that the name of
a message with a field that refers to the flat name. -/
def Prefixed (schema : Schema) (s : State) : Prop :=
  ∀ fullName name, (fullName, name) ∈ s.given → ∃ type, schema.owner? fullName = some type ∧
    (name = type.name ∨ ∃ around field, name = around ++ "_" ++ type.name ∧
      s.Writes around field ∧ field.typeName = name)

theorem typeName_fieldRecord_named (field : Field) (entry : Option (Field × Field))
    (name : String) : (fieldRecord field entry (.named name)).typeName = name := by
  cases entry with
  | none => rfl
  | some pair => rfl

theorem flatName_some_eq (name : String) (parent : Option String) (around : String) :
    flatName name parent (some around) = name ∨
      flatName name parent (some around) = around ++ "_" ++ name := by
  cases parent with
  | none => exact .inl rfl
  | some parent => exact .inr rfl

namespace Prefixed

variable {c : Context} {service : Service} {s t : State}

/-- Assumes: what was written stays. Names that were given before keep their origin. -/
theorem mem_given (h : Prefixed c.schema s)
    (hwrites : ∀ name field, s.Writes name field → t.Writes name field) {fullName name : String}
    (hmem : (fullName, name) ∈ s.given) :
    ∃ type, c.schema.owner? fullName = some type ∧
      (name = type.name ∨ ∃ around field, name = around ++ "_" ++ type.name ∧
        t.Writes around field ∧ field.typeName = name) := by
  obtain ⟨type, howner, hname | ⟨around, field, hname, hwritten, hrefers⟩⟩ := h fullName name hmem
  · exact ⟨type, howner, .inl hname⟩
  · exact ⟨type, howner, .inr ⟨around, field, hname, hwrites _ _ hwritten, hrefers⟩⟩

theorem advance (h : Prefixed c.schema s) (hadvance : Advance c s t) : Prefixed c.schema t := by
  have hwrites (name : String) (field : Record.Field) (hwritten : s.Writes name field) :
      t.Writes name field := hadvance.writes hwritten
  intro fullName name hmem
  cases hadvance with
  | finish => exact h.mem_given hwrites hmem
  | @field top rest field subject pending target frame u _ _ _ htargeting =>
    cases htargeting with
    | scalar => exact h.mem_given hwrites hmem
    | timestamp => exact h.mem_given hwrites hmem
    | @named type flat _ _ hreferent _ hnaming =>
      rcases hnaming.mem_given hmem with hmem | ⟨hfresh, hnew⟩
      · exact h.mem_given hwrites hmem
      · cases hnew
        have hname := hnaming.name_eq hfresh
        refine ⟨type, Schema.owner?_of_referent? hreferent, ?_⟩
        rcases flatName_some_eq type.name type.parent top.name with hplain | hprefix
        · exact .inl (hname.trans hplain)
        · exact .inr ⟨top.name, _, hname.trans hprefix,
            State.writes_walked u _ rest top pending _, typeName_fieldRecord_named _ _ _⟩

theorem move (h : Prefixed c.schema s) (hmove : Move c service s t) : Prefixed c.schema t := by
  have hwrites (name : String) (field : Record.Field) (hwritten : s.Writes name field) :
      t.Writes name field := hmove.writes hwritten
  cases hmove with
  | note => exact h
  | call => exact h
  | advance hadvance => exact h.advance hadvance
  | @enter message flat frame u _ hroot hnaming =>
    intro fullName name hmem
    rcases hnaming.mem_given hmem with hmem | ⟨hfresh, hnew⟩
    · exact h.mem_given hwrites hmem
    · cases hnew
      exact ⟨.message message, hroot.owner?, .inl (hnaming.name_eq hfresh)⟩

theorem of_moves (h : ReflTransGen (Move c service) {} s) : Prefixed c.schema s := by
  induction h with
  | refl => exact fun fullName name hmem ↦ absurd hmem List.not_mem_nil
  | tail _ hmove ih => exact ih.move hmove

end Prefixed

/-! ### Names stay -/

/-- A run adds to what it had at the points that it has passed. -/
theorem History.grows {c : Context} {service : Service} {start p q : Point} {past : List Point}
    (h : History c start past p) (hstart : start.Rooted c.schema service) (hq : q ∈ past) :
    Grows q.state p.state := by
  induction h with
  | start => exact absurd hq List.not_mem_nil
  | next history hbusy hnext ih =>
    have hstep := (Context.next_move (history.rooted hstart) hbusy hnext).1.grows
    rcases List.mem_cons.mp hq with rfl | hq
    · exact hstep
    · exact (ih hq).trans hstep

theorem Course.flatName?_eq {schema : Schema} {strict : Bool} {service : Service}
    {past : List Point} {p q : Point} (h : Course schema strict service past p) (hq : q ∈ past)
    {fullName name : String} (hname : q.state.flatName? fullName = some name) :
    p.state.flatName? fullName = some name :=
  (History.grows h (Course.start_rooted schema strict service) hq).flatName? hname

/-! ### What a type is called -/

/-- The flat name of a type, in a run over methods that comes to a service. -/
structure CalledAs (c : Context) (methods : List Method) (flat : Record.Service) (type : NamedType)
    (name : String) : Prop where
  plain : type.parent = none ∨ CalledFirst c methods type.fullName → name = type.name
  prefixed : ¬(type.parent = none ∨ CalledFirst c methods type.fullName) →
    ∃ record ∈ flat.messages, name = record.name ++ "_" ++ type.name ∧
      ∃ field ∈ record.fields, field.typeName = name

/-- Assumes: no message is being walked. -/
theorem Runs.calledAs {c : Context} {service : Service} {methods : List Method} {s : State}
    (h : Runs c methods s) (hprefixed : Prefixed c.schema s) (hidle : s.stack = [])
    {fullName name : String} (hmem : (fullName, name) ∈ s.given) :
    ∃ type, c.schema.owner? fullName = some type ∧
      CalledAs c methods (s.result service).service type name := by
  obtain ⟨type, howner, hshape⟩ := h.shaped hmem
  obtain rfl := Schema.fullName_of_owner? howner
  refine ⟨type, howner, ?_⟩
  rcases hshape with ⟨hcalled, rfl⟩ | ⟨hcalled, around, hname⟩
  · exact ⟨fun _ ↦ rfl, fun hnot ↦ absurd (.inr hcalled) hnot⟩
  · refine ⟨fun hplain ↦ ?_, fun hnot ↦ ?_⟩
    · rw [hname]
      exact flatName_some_eq_iff.mpr (hplain.resolve_right hcalled)
    · have hne : name ≠ type.name := by
        rw [hname]
        exact fun heq ↦ hnot (.inl (flatName_some_eq_iff.mp heq))
      obtain ⟨other, hother, horigin⟩ := hprefixed type.fullName name hmem
      rw [howner] at hother
      cases hother
      obtain ⟨holder, field, hprefix, hwritten, hrefers⟩ := horigin.resolve_left hne
      obtain ⟨record, hrecord, rfl, hfield⟩ := (State.writes_iff hidle).mp hwritten
      exact ⟨record, hrecord, hprefix, field, hfield, hrefers⟩

end Flattening

/-- Assumes: a linked descriptor set, a service of one of its files, and a result of flattening it.
A name that was given at a point of a run is not changed later. Where the run ends, a type that has
a name has the one under which it is declared, if it is not nested or a call was the first to reach
it. Otherwise that stands behind the name of a record with a field that refers to the type under
this flat name. -/
theorem flatten_prefixed {set : List Descriptor.File} {schema : Schema} {file : File}
    {service : Service} {strict : Bool} {result : Result} (hlink : Schema.link set = .ok schema)
    (hfile : file ∈ schema.files) (hservice : service ∈ file.services)
    (hresult : flatten schema strict service = .ok result) :
    (∀ past p, Course schema strict service past p → ∀ q ∈ past, ∀ fullName name,
        q.state.flatName? fullName = some name → p.state.flatName? fullName = some name) ∧
      ∃ past p, Course schema strict service past p ∧ p.Done ∧ p.state.result service = result ∧
        ∀ fullName name, p.state.flatName? fullName = some name →
          ∃ type, schema.owner? fullName = some type ∧
            CalledAs ⟨schema, service.name, strict⟩ service.methods result.service type name := by
  refine ⟨fun past p hcourse q hq fullName name ↦ hcourse.flatName?_eq hq, ?_⟩
  obtain ⟨past, p, hcourse, hdone, rfl⟩ := Course.exists_of_flatten hresult
  refine ⟨past, p, hcourse, hdone, rfl, fun fullName name hname ↦ ?_⟩
  have hruns : Runs ⟨schema, service.name, strict⟩ service.methods p.state :=
    .of_eq_ok ((Schema.linked_of_link hlink).method file hfile service hservice)
      (hcourse.run_eq_of_done hdone)
  have hprefixed : Prefixed schema p.state :=
    Prefixed.of_moves (History.moves hcourse (Course.start_rooted schema strict service))
  exact hruns.calledAs hprefixed hdone.1 (hcourse.sound.tabled.flatName?_eq_some_iff.mp hname)

namespace Shop

theorem given_eq : (Context.run ⟨schema, "Shop", true⟩ service.methods).map State.given =
    .ok [(".shop.Order", "Order"), (".shop.Order.Line", "Order_Line"),
      (".shop.Order.Status", "Order_Status")] := by
  simp only [Context.run, service, List.foldlM_cons, List.foldlM_nil, Context.walkMethod,
    Context.walkRoute, Context.walkMessage, Context.drain_eq]
  decide +kernel

/-- The line of an order is called after the order, whose field is the first to reach it, although
the line is the input of a method too. -/
theorem line_prefixed :
    ∃ past p, Course schema true service past p ∧ p.Done ∧
      p.state.flatName? ".shop.Order.Line" = some "Order_Line" ∧
      ¬CalledFirst ⟨schema, "Shop", true⟩ service.methods ".shop.Order.Line" ∧
      ∃ record ∈ flat.messages, "Order_Line" = record.name ++ "_" ++ "Line" ∧
        ∃ field ∈ record.fields, field.typeName = "Order_Line" := by
  obtain ⟨-, past, p, hcourse, hdone, -, hnames⟩ :=
    flatten_prefixed link_eq file_mem service_mem (flatten_eq true)
  have hrun : Context.run ⟨schema, "Shop", true⟩ service.methods = .ok p.state :=
    hcourse.run_eq_of_done hdone
  have hgiven := given_eq
  rw [hrun] at hgiven
  have hname : p.state.flatName? ".shop.Order.Line" = some "Order_Line" := by
    rw [State.flatName?, Except.ok.inj hgiven]
    rfl
  obtain ⟨type, howner, hcalled⟩ := hnames _ _ hname
  obtain rfl : NamedType.message line = type := Option.some.inj howner
  have hlater : ¬CalledFirst ⟨schema, "Shop", true⟩ service.methods ".shop.Order.Line" :=
    fun hfirst ↦ absurd (hcalled.plain (.inr hfirst)) (by decide)
  refine ⟨past, p, hcourse, hdone, hname, hlater, hcalled.prefixed ?_⟩
  rintro (hparent | hfirst)
  · cases hparent
  · exact hlater hfirst

end Shop

end ClientGen
