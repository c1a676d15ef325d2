import ClientGen.Flattening.State

/-!
# Walking the fields of messages

`Context.step` advances a run by one field or finishes one message, and `Context.drain` repeats it
until no message is being walked. It ends since a step that starts on a new message names a type of
the schema that had no flat name (`State.unnamed`), and any other step uses up a field or a frame
(`State.work`).
-/

set_option autoImplicit false
set_option relaxedAutoImplicit false

namespace ClientGen.Flattening

/-- What a field refers to: nothing, the timestamp message, which stands for a text, or a type with
its flat name. -/
inductive Target
  | scalar
  | timestamp
  | named (name : String)
  deriving DecidableEq, Repr

/-- The name of the message that is shown as a text. -/
def timestampName : String :=
  "Timestamp"

/-- The record of an enum. -/
def enumRecord (name : String) (enum : Declaration.Enum) : Record.Enum :=
  ⟨name, enum.comment, enum.values.map fun value ↦ ⟨value.name, value.number, value.comment⟩⟩

/-- The record of a field. `entry` holds the key and value fields of a map, and `target` is what the
field, or the value field of a map, refers to. -/
def fieldRecord (field : Declaration.Field) (entry : Option (Declaration.Field × Declaration.Field))
    (target : Target) : Record.Field :=
  let text := FieldType.string.tag
  let type := if target = .timestamp then text else field.type.tag
  let kind : Record.Kind := match entry with
    | some (key, value) => match target with
      | .named name => .map key.type.tag value.type.tag name
      | .timestamp => .map key.type.tag text ""
      | .scalar => .map key.type.tag value.type.tag ""
    | none => match target with
      | .named name => .reference name field.repeated
      | _ => .scalar type field.repeated
  ⟨field.jsonName, type, kind, field.comment⟩

namespace Context

/-- Gives a message its flat name, if it has none yet. If it is the first under that name, its walk
begins with the returned frame. -/
def reachMessage (c : Context) (message : Declaration.Message) (around : Option String)
    (s : State) : Except Halt (String × Option Frame × State) :=
  match s.flatName? message.fullName with
  | some name => .ok (name, none, s)
  | none =>
    let name := flatName message.name message.parent around
    let frame := if (s.visit? name).isSome then none else some (Frame.start name message)
    (c.claimMessage message.fullName name s).map fun s ↦ (name, frame, s)

/-- Gives an enum its flat name, if it has none yet, and a record if it is the first under that
name. -/
def reachEnum (c : Context) (enum : Declaration.Enum) (around : Option String) (s : State) :
    Except Halt (String × State) :=
  match s.flatName? enum.fullName with
  | some name => .ok (name, s)
  | none =>
    let name := flatName enum.name enum.parent around
    let records := if (s.enumOwner? name).isSome then [] else [enumRecord name enum]
    (c.claimEnum enum.fullName name s).map fun s ↦ (name, { s with enums := s.enums ++ records })

/-- Reaches the type that a field refers to. -/
def reach (c : Context) (field : Declaration.Field) (around : String) (s : State) :
    Except Halt (Target × Option Frame × State) :=
  match field.link with
  | .scalar => .ok (.scalar, none, s)
  | .enum fullName => match c.schema.enum? fullName with
    | none => .ok (.scalar, none, s)
    | some enum => (c.reachEnum enum around s).map fun (name, s) ↦ (.named name, none, s)
  | .message fullName => match c.schema.message? fullName with
    | none => .ok (.scalar, none, s)
    | some message =>
      if message.name = timestampName then .ok (.timestamp, none, s)
      else (c.reachMessage message around s).map fun (name, frame, s) ↦ (.named name, frame, s)

/-- Walks one field of the message named `around`. -/
def walkField (c : Context) (around : String) (field : Declaration.Field) (s : State) :
    Except Halt (Record.Field × Option Frame × State) :=
  match c.schema.mapEntry? field with
  | none => (c.reach field around s).map fun (target, frame, s) ↦
      (fieldRecord field none target, frame, s)
  | some entry => match entry.fields with
    | key :: value :: _ => (c.reach value around s).map fun (target, frame, s) ↦
        (fieldRecord field (some (key, value)) target, frame, s)
    | _ => s.halt .shortEntry

/-- Advances the walk of the topmost message by one field, or finishes it. -/
def step (c : Context) (s : State) : Except Halt State :=
  match s.stack with
  | [] => .ok s
  | top :: rest => match top.pending with
    | [] => .ok { s with messages := s.messages ++ [top.record], stack := rest }
    | field :: pending => (c.walkField top.name field s).map fun (record, frame, s) ↦
        { s with
          stack := frame.toList ++ { top with done := top.done ++ [record], pending } :: rest }

end Context

/-! ### Termination -/

namespace State

/-- The number of types of the schema that have no flat name yet. -/
def unnamed (schema : Schema) (s : State) : Nat :=
  schema.types.countP fun type ↦ (s.flatName? type.fullName).isNone

/-- The fields and frames that are still to be finished. -/
def work (s : State) : Nat :=
  s.stack.foldr (fun frame work ↦ frame.pending.length + 1 + work) 0

/-- Every type named in `s` is named in `t`, and the stacks are equal. -/
structure Extends (s t : State) : Prop where
  named : ∀ fullName, (s.flatName? fullName).isSome → (t.flatName? fullName).isSome
  stack : t.stack = s.stack

theorem Extends.refl (s : State) : Extends s s :=
  ⟨fun _ h ↦ h, rfl⟩

theorem flatName?_give (s : State) (fullName name other : String) :
    ((s.give fullName name).flatName? other).isSome =
      ((s.flatName? other).isSome || other == fullName) := by
  simp only [flatName?, give, List.lookup_append, List.lookup_cons, List.lookup_nil]
  cases s.given.lookup other <;> cases other == fullName <;> rfl

/-- A state that lists the names of `s` and one more extends `s`. -/
theorem Extends.of_given {s t : State} {fullName name : String}
    (given : t.given = s.given ++ [(fullName, name)]) (stack : t.stack = s.stack) :
    Extends s t ∧ (t.flatName? fullName).isSome := by
  have key (other : String) :
      (t.flatName? other).isSome = ((s.flatName? other).isSome || other == fullName) := by
    rw [← flatName?_give s fullName name other, flatName?, given]
    rfl
  exact ⟨⟨fun other h ↦ by simp [key, h], stack⟩, by simp [key]⟩

end State

/-- A mapped result comes from a result. -/
theorem exists_of_map_eq_ok {ε α β : Type} {x : Except ε α} {f : α → β} {b : β}
    (h : x.map f = .ok b) : ∃ a, x = .ok a ∧ f a = b := by
  cases x with
  | error => cases h
  | ok a => exact ⟨a, rfl, by cases h; rfl⟩

namespace Context

theorem report_given {c : Context} {r : Report} {s t : State} (h : c.report r s = .ok t) :
    t.given = s.given ∧ t.stack = s.stack := by
  unfold report at h
  split at h
  · cases h
  · cases h
    exact ⟨rfl, rfl⟩

theorem claimMessage_given {c : Context} {fullName name : String} {s t : State}
    (h : c.claimMessage fullName name s = .ok t) :
    t.given = s.given ++ [(fullName, name)] ∧ t.stack = s.stack := by
  unfold claimMessage at h
  split at h
  · exact report_given h
  · simp only at h
    split at h
    · exact report_given h
    · cases h
      exact ⟨rfl, rfl⟩

theorem claimEnum_given {c : Context} {fullName name : String} {s t : State}
    (h : c.claimEnum fullName name s = .ok t) :
    t.given = s.given ++ [(fullName, name)] ∧ t.stack = s.stack := by
  unfold claimEnum at h
  split at h
  · exact report_given h
  · simp only at h
    split at h
    · exact report_given h
    · cases h
      exact ⟨rfl, rfl⟩

/-- What one reference does to the names: it keeps them, and a new frame comes with a new name. -/
structure Reaches (schema : Schema) (s : State) (frame : Option Frame) (t : State) : Prop where
  extends_ : State.Extends s t
  fresh : frame.isSome → ∃ type ∈ schema.types,
    (s.flatName? type.fullName).isNone ∧ (t.flatName? type.fullName).isSome

theorem reachEnum_extends {c : Context} {enum : Declaration.Enum} {around : Option String}
    {s t : State} {name : String} (h : c.reachEnum enum around s = .ok (name, t)) :
    State.Extends s t := by
  unfold reachEnum at h
  split at h
  · cases h
    exact .refl s
  · obtain ⟨u, hclaim, hu⟩ := exists_of_map_eq_ok h
    cases hu
    have hgiven := claimEnum_given hclaim
    have hext := (State.Extends.of_given hgiven.1 hgiven.2).1
    exact ⟨hext.named, hext.stack⟩

theorem reachMessage_reaches {c : Context} {message : Declaration.Message}
    {around : Option String} {s t : State} {name : String} {frame : Option Frame}
    (hmem : .message message ∈ c.schema.types)
    (h : c.reachMessage message around s = .ok (name, frame, t)) :
    Reaches c.schema s frame t := by
  unfold reachMessage at h
  split at h
  · cases h
    exact ⟨.refl s, by simp⟩
  · next hnone =>
    obtain ⟨u, hclaim, hu⟩ := exists_of_map_eq_ok h
    cases hu
    have hgiven := claimMessage_given hclaim
    have hext := State.Extends.of_given hgiven.1 hgiven.2
    exact ⟨hext.1, fun _ ↦ ⟨_, hmem, by simp [Declaration.NamedType.fullName, hnone], hext.2⟩⟩

end Context

theorem mem_types_of_message? {schema : Schema} {fullName : String}
    {message : Declaration.Message} (h : schema.message? fullName = some message) :
    .message message ∈ schema.types := by
  unfold Schema.message? at h
  split at h
  · next howner =>
    cases h
    exact List.mem_reverse.1 (List.mem_of_find?_eq_some howner)
  · cases h

namespace Context

theorem reach_reaches {c : Context} {field : Declaration.Field} {around : String} {s t : State}
    {target : Target} {frame : Option Frame}
    (h : c.reach field around s = .ok (target, frame, t)) : Reaches c.schema s frame t := by
  unfold reach at h
  split at h
  · cases h
    exact ⟨.refl s, by simp⟩
  · split at h
    · cases h
      exact ⟨.refl s, by simp⟩
    · obtain ⟨⟨name, u⟩, hreach, hu⟩ := exists_of_map_eq_ok h
      cases hu
      exact ⟨reachEnum_extends hreach, by simp⟩
  · split at h
    · cases h
      exact ⟨.refl s, by simp⟩
    · next message hmessage =>
      split at h
      · cases h
        exact ⟨.refl s, by simp⟩
      · obtain ⟨⟨name, frame, u⟩, hreach, hu⟩ := exists_of_map_eq_ok h
        cases hu
        exact reachMessage_reaches (mem_types_of_message? hmessage) hreach

theorem walkField_reaches {c : Context} {around : String} {field : Declaration.Field}
    {s t : State} {record : Record.Field} {frame : Option Frame}
    (h : c.walkField around field s = .ok (record, frame, t)) : Reaches c.schema s frame t := by
  unfold walkField at h
  split at h
  · obtain ⟨⟨target, frame, u⟩, hreach, hu⟩ := exists_of_map_eq_ok h
    cases hu
    exact reach_reaches hreach
  · split at h
    · obtain ⟨⟨target, frame, u⟩, hreach, hu⟩ := exists_of_map_eq_ok h
      cases hu
      exact reach_reaches hreach
    · cases h

end Context

/-- A predicate that holds less often, and not at some place where the other does, counts less. -/
theorem countP_lt_countP {α : Type} {p q : α → Bool} (imp : ∀ a, p a → q a) {l : List α} {a : α}
    (mem : a ∈ l) (hp : p a = false) (hq : q a) : l.countP p < l.countP q := by
  induction l with
  | nil => cases mem
  | cons b rest ih =>
    have hle : rest.countP p ≤ rest.countP q := List.countP_mono_left fun x _ ↦ imp x
    simp only [List.countP_cons]
    cases mem with
    | head => simp only [hp, hq]; simp; omega
    | tail _ mem =>
      have hlt := ih mem
      have hb : (if p b then 1 else 0) ≤ (if q b then 1 else 0) := by
        cases hpb : p b with
        | false => simp
        | true => simp [imp b hpb]
      omega

theorem State.Extends.isNone {s t : State} (h : State.Extends s t) (fullName : String)
    (hnone : (t.flatName? fullName).isNone) : (s.flatName? fullName).isNone := by
  cases hs : s.flatName? fullName with
  | none => rfl
  | some name =>
    have := h.named fullName (by simp [hs])
    simp_all

/-- Naming more types leaves no more of them unnamed. -/
theorem State.Extends.unnamed_le {schema : Schema} {s t : State} (h : State.Extends s t) :
    t.unnamed schema ≤ s.unnamed schema :=
  List.countP_mono_left fun type _ ↦ h.isNone type.fullName

/-- A new frame leaves fewer types unnamed. -/
theorem Context.Reaches.unnamed_lt {schema : Schema} {s t : State} {frame : Option Frame}
    (h : Context.Reaches schema s frame t) (hframe : frame.isSome) :
    t.unnamed schema < s.unnamed schema := by
  obtain ⟨type, mem, hs, ht⟩ := h.fresh hframe
  refine countP_lt_countP (fun type ↦ h.extends_.isNone type.fullName) mem ?_ hs
  cases hname : t.flatName? type.fullName <;> simp_all

/-- A step on a run with a message being walked names another type or leaves less work. -/
theorem Context.step_lt {c : Context} {s t : State} (hstack : s.stack ≠ [])
    (h : c.step s = .ok t) :
    Prod.Lex (· < ·) (· < ·) (t.unnamed c.schema, t.work) (s.unnamed c.schema, s.work) := by
  unfold Context.step at h
  split at h
  · contradiction
  · next top rest hs =>
    split at h
    · cases h
      refine Prod.Lex.right _ ?_
      simp [State.work, hs]
    · next field pending hpending =>
      obtain ⟨⟨record, frame, u⟩, hwalk, hu⟩ := exists_of_map_eq_ok h
      cases hu
      have hreach := walkField_reaches hwalk
      cases frame with
      | some frame => exact Prod.Lex.left _ _ (hreach.unnamed_lt rfl)
      | none =>
        have hle : u.unnamed c.schema ≤ s.unnamed c.schema := hreach.extends_.unnamed_le
        rcases Nat.lt_or_eq_of_le hle with hlt | heq
        · exact Prod.Lex.left _ _ hlt
        · have hwork : (State.work { u with
              stack := { top with done := top.done ++ [record], pending } :: rest }) < s.work := by
            simp [State.work, hs, hpending]
          exact heq ▸ Prod.Lex.right _ hwork

/-- Walks on until no message is being walked. -/
def Context.drain (c : Context) (s : State) : Except Halt State :=
  if _hstack : s.stack = [] then .ok s
  else match _hstep : c.step s with
    | .error halt => .error halt
    | .ok t => c.drain t
termination_by (s.unnamed c.schema, s.work)
decreasing_by exact Context.step_lt _hstack _hstep

end ClientGen.Flattening
