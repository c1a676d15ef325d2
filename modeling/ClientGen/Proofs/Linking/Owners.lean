import ClientGen.Proofs.Linking.Site
import ClientGen.Proofs.References

/-!
# References and their owners

Linking resolves the type names of a descriptor set one after the other (`references`): the names in
all fields first, those of nested messages before those of the message around them, and then the
names in all methods. A name is resolved if the last declaration of that name in the whole set is of
the kind that is asked for (`Reference.Owned`), no matter where the reference stands.

What linking gives is decided by the references alone (`Decides`): it is the error of the first one
that is not owned, and a schema if there is none such. Each part of linking is decided by the
references it resolves, and parts that run one after the other are decided by their references put
together, in that order.
-/

set_option autoImplicit false
set_option relaxedAutoImplicit false

namespace ClientGen

open Declaration Linking

/-! ### References -/

/-- A type name, and the kind of declaration that has to own it. -/
structure Reference where
  expected : TypeKind
  typeName : String
  deriving DecidableEq, Repr

/-- The error of a reference that is not owned. -/
def Reference.error (reference : Reference) : LinkError :=
  ⟨reference.expected, reference.typeName⟩

/-- The last declaration that a descriptor set makes of the name has the kind asked for. -/
def Reference.Owned (set : List Descriptor.File) (reference : Reference) : Prop :=
  ∃ before after,
    set.flatMap namesOfFile = before ++ (reference.typeName, reference.expected) :: after ∧
      ∀ later ∈ after, later.1 ≠ reference.typeName

namespace Descriptor

/-- The reference that a field makes, if its type is a message or an enum. -/
def Field.references (field : Field) : List Reference :=
  match field.type with
  | .message => [⟨.message, field.typeName⟩]
  | .enum => [⟨.enum, field.typeName⟩]
  | _ => []

mutual

/-- The references in a message, those of the messages nested in it first. -/
def Message.references : Message → List Reference
  | ⟨_, fields, messages, _, _⟩ =>
    referencesOfMessages messages ++ fields.flatMap Field.references

/-- The references in a list of messages. -/
def referencesOfMessages : List Message → List Reference
  | [] => []
  | message :: rest => message.references ++ referencesOfMessages rest

end

/-- The references of a method, its input first. -/
def Method.references (method : Method) : List Reference :=
  [⟨.message, method.input⟩, ⟨.message, method.output⟩]

/-- The references in the fields of a file. -/
def File.fieldReferences (file : File) : List Reference :=
  referencesOfMessages file.messages

/-- The references in the methods of a file. -/
def File.methodReferences (file : File) : List Reference :=
  file.services.flatMap fun service ↦ service.methods.flatMap Method.references

end Descriptor

/-- The references in a descriptor set, all fields before all methods. -/
def Linking.references (set : List Descriptor.File) : List Reference :=
  set.flatMap Descriptor.File.fieldReferences ++ set.flatMap Descriptor.File.methodReferences

/-! ### Results that are decided by references -/

namespace Linking

variable {α β : Type} {names : List (String × TypeKind)} {refs others : List Reference}

/-- The last of the names that a reference could mean has the kind asked for. -/
theorem ownerKind?_eq_some_iff {fullName : String} {kind : TypeKind} :
    ownerKind? names fullName = some kind ↔ ∃ before after,
      names = before ++ (fullName, kind) :: after ∧ ∀ later ∈ after, later.1 ≠ fullName := by
  rw [ownerKind?, List.lookup_eq_some_iff]
  constructor
  · rintro ⟨after, before, hsplit, hlater⟩
    refine ⟨before.reverse, after.reverse, ?_, fun later hmem hname ↦ ?_⟩
    · rw [← List.reverse_reverse names, hsplit]
      simp
    · have hne := hlater later (List.mem_reverse.mp hmem)
      rw [hname] at hne
      simp at hne
  · rintro ⟨before, after, rfl, hlater⟩
    refine ⟨after.reverse, before.reverse, by simp, fun later hmem ↦ ?_⟩
    simpa using Ne.symm (hlater later (List.mem_reverse.mp hmem))

theorem owned_iff {set : List Descriptor.File} {reference : Reference} :
    reference.Owned set ↔
      ownerKind? (set.flatMap namesOfFile) reference.typeName = some reference.expected :=
  ownerKind?_eq_some_iff.symm

/-- A result is the error of the first reference that is not owned, or there is none such and the
result is no error. -/
def Decides (names : List (String × TypeKind)) (references : List Reference)
    (x : Except LinkError α) : Prop :=
  match references.find? fun r ↦ ownerKind? names r.typeName ≠ some r.expected with
  | some reference => x = .error reference.error
  | none => Returns x

namespace Decides

theorem ok (a : α) : Decides names [] (.ok a) :=
  Returns.ok a

theorem resolve {context : Context} {expected : TypeKind} {fullName : String} :
    Decides context.names [⟨expected, fullName⟩] (context.resolve expected fullName) := by
  unfold Decides Context.resolve
  by_cases howner : ownerKind? context.names fullName = some expected
  · simp [howner, Returns.ok]
  · simp [howner, Reference.error]

theorem map {x : Except LinkError α} (h : Decides names refs x) (f : α → β) :
    Decides names refs (x.map f) := by
  unfold Decides at h ⊢
  split at h
  · rw [h]
    rfl
  · exact h.map

/-- Of two parts, the second counts only if the first gives no error. -/
theorem bind {x : Except LinkError α} {f : α → Except LinkError β}
    (h : Decides names refs x) (hnext : ∀ a, x = .ok a → Decides names others (f a)) :
    Decides names (refs ++ others) (x >>= f) := by
  unfold Decides at h ⊢
  rw [List.find?_append]
  split at h
  · next hfind =>
    rw [hfind, h]
    rfl
  · next hfind =>
    obtain ⟨a, rfl⟩ := h
    rw [hfind]
    exact hnext a rfl

/-- A last step that cannot fail adds no reference. -/
theorem bind_ok {x : Except LinkError α} (h : Decides names refs x) (f : α → β) :
    Decides names refs (x >>= fun a ↦ .ok (f a)) := by
  have hbind := h.bind fun a _ ↦ Decides.ok (f a)
  rwa [List.append_nil] at hbind

theorem mapM {l : List α} {f : α → Except LinkError β} {g : α → List Reference}
    (h : ∀ a ∈ l, Decides names (g a) (f a)) : Decides names (l.flatMap g) (l.mapM f) := by
  induction l with
  | nil => exact .ok []
  | cons a rest ih =>
    rw [List.mapM_cons, List.flatMap_cons]
    refine (h a List.mem_cons_self).bind fun b _ ↦ ?_
    exact (ih fun other hother ↦ h other (List.mem_cons_of_mem a hother)).bind_ok (b :: ·)

/-- The positions in a list do not matter for what decides. -/
theorem mapM_zipIdx {l : List α} {f : α × Nat → Except LinkError β} {g : α → List Reference}
    (h : ∀ a i, Decides names (g a) (f (a, i))) :
    Decides names (l.flatMap g) (l.zipIdx.mapM f) := by
  have hmapM : Decides names (l.zipIdx.flatMap fun pair ↦ g pair.1) (l.zipIdx.mapM f) :=
    mapM fun pair _ ↦ h pair.1 pair.2
  rwa [← List.flatMap_map Prod.fst g, List.zipIdx_map_fst] at hmapM

theorem returns_iff {x : Except LinkError α} (h : Decides names refs x) :
    Returns x ↔ ∀ r ∈ refs, ownerKind? names r.typeName = some r.expected := by
  unfold Decides at h
  split at h
  · next reference hfind =>
    constructor
    · rintro ⟨a, ha⟩
      rw [h] at ha
      cases ha
    · intro howned
      have hunowned := List.find?_some hfind
      simp [howned reference (List.mem_of_find?_eq_some hfind)] at hunowned
  · next hfind =>
    refine ⟨fun _ r hr ↦ ?_, fun _ ↦ h⟩
    simpa using List.find?_eq_none.mp hfind r hr

theorem eq_error_iff {x : Except LinkError α} (h : Decides names refs x) {e : LinkError} :
    x = .error e ↔ ∃ before r after, refs = before ++ r :: after ∧
      (∀ earlier ∈ before, ownerKind? names earlier.typeName = some earlier.expected) ∧
      ownerKind? names r.typeName ≠ some r.expected ∧ e = r.error := by
  unfold Decides at h
  constructor
  · intro herror
    split at h
    · next reference hfind =>
      obtain ⟨hunowned, before, after, hsplit, hearlier⟩ := List.find?_eq_some_iff_append.mp hfind
      refine ⟨before, reference, after, hsplit, ?_, by simpa using hunowned, ?_⟩
      · intro earlier hmem
        simpa using hearlier earlier hmem
      · rw [h] at herror
        exact (Except.error.inj herror).symm
    · obtain ⟨a, ha⟩ := h
      rw [ha] at herror
      cases herror
  · rintro ⟨before, r, after, hsplit, hearlier, hunowned, rfl⟩
    have hfind : refs.find? (fun r ↦ ownerKind? names r.typeName ≠ some r.expected) =
        some r := by
      refine List.find?_eq_some_iff_append.mpr ⟨by simpa using hunowned, before, after, hsplit, ?_⟩
      intro earlier hmem
      simpa using hearlier earlier hmem
    rw [hfind] at h
    exact h

end Decides

/-! ### What decides linking -/

namespace Context

variable {context : Context}

theorem decides_linkType (descriptor : Descriptor.Field) :
    Decides context.names descriptor.references (context.linkType descriptor) := by
  unfold linkType Descriptor.Field.references
  cases descriptor.type with
  | message => exact Decides.resolve.map Link.message
  | enum => exact Decides.resolve.map Link.enum
  | _ => exact .ok Link.scalar

theorem decides_linkField (path : List Int) (descriptor : Descriptor.Field) :
    Decides context.names descriptor.references (context.linkField path descriptor) :=
  (decides_linkType descriptor).bind_ok _

mutual

theorem decides_linkMessage {scope : String} {parent : Option String} {path : List Int} :
    ∀ descriptor : Descriptor.Message,
      Decides context.names descriptor.references
        (context.linkMessage scope parent path descriptor)
  | ⟨name, fields, messages, enums, mapEntry⟩ => by
    rw [linkMessage, Descriptor.Message.references]
    refine (decides_linkMessages messages).bind fun nested _ ↦ ?_
    refine Decides.bind_ok ?_ _
    exact Decides.mapM_zipIdx fun field i ↦ decides_linkField _ field

theorem decides_linkMessages {scope : String} {parent : Option String} {place : Place}
    {path : List Int} {i : Nat} : ∀ descriptors : List Descriptor.Message,
      Decides context.names (Descriptor.referencesOfMessages descriptors)
        (context.linkMessages scope parent place path i descriptors)
  | [] => by
    rw [linkMessages, Descriptor.referencesOfMessages]
    exact .ok []
  | descriptor :: rest => by
    rw [linkMessages, Descriptor.referencesOfMessages]
    refine (decides_linkMessage descriptor).bind fun first _ ↦ ?_
    exact (decides_linkMessages rest).bind_ok (first :: ·)

end

theorem decides_linkTypes (context : Context) (descriptor : Descriptor.File) :
    Decides context.names descriptor.fieldReferences (context.linkTypes descriptor) :=
  (decides_linkMessages descriptor.messages).bind_ok _

theorem decides_linkMethod (path : List Int) (descriptor : Descriptor.Method) :
    Decides context.names descriptor.references (context.linkMethod path descriptor) := by
  have hmethod : descriptor.references =
      [⟨.message, descriptor.input⟩] ++ [⟨.message, descriptor.output⟩] := rfl
  rw [hmethod]
  exact Decides.resolve.bind fun input _ ↦ Decides.resolve.bind_ok _

theorem decides_linkServices (context : Context) (descriptor : Descriptor.File) :
    Decides context.names descriptor.methodReferences (context.linkServices descriptor) := by
  refine Decides.mapM_zipIdx fun service i ↦ Decides.bind_ok ?_ _
  exact Decides.mapM_zipIdx fun method j ↦ decides_linkMethod _ method

end Context

theorem decides_link (set : List Descriptor.File) :
    Decides (set.flatMap namesOfFile) (references set) (Schema.link set) := by
  refine Decides.bind (Decides.mapM fun file _ ↦
    Context.decides_linkTypes ⟨_, file.locations⟩ file) fun typed htyped ↦ ?_
  -- Each file goes along with what became of its types, which refers to nothing any more.
  have hlength := (forall₂_of_mapM_eq_ok htyped).length_eq
  have hfiles : (set.zip typed).flatMap (fun pair ↦ pair.1.methodReferences) =
      set.flatMap Descriptor.File.methodReferences := by
    rw [← List.flatMap_map Prod.fst Descriptor.File.methodReferences,
      List.map_fst_zip (Nat.le_of_eq hlength)]
  rw [← hfiles]
  refine Decides.bind_ok (Decides.mapM fun pair _ ↦ ?_) _
  exact (Context.decides_linkServices ⟨_, pair.1.locations⟩ pair.1).bind_ok _

end Linking

/-! ### What the links point to -/

namespace Schema

variable {schema : Schema}

/-- A type is the last one that is declared under a full name. -/
def LastDeclared (schema : Schema) (fullName : String) (type : NamedType) : Prop :=
  ∃ before after, schema.types = before ++ type :: after ∧ type.fullName = fullName ∧
    ∀ later ∈ after, later.fullName ≠ fullName

theorem lastDeclared_of_owner? {fullName : String} {type : NamedType}
    (h : schema.owner? fullName = some type) : schema.LastDeclared fullName type := by
  obtain ⟨hname, before, after, hsplit, hlater⟩ := find?_reverse_eq_some_iff.mp h
  exact ⟨before, after, hsplit, by simpa using hname, by simpa using hlater⟩

theorem lastDeclared_of_message? {fullName : String} {message : Message}
    (h : schema.message? fullName = some message) :
    schema.LastDeclared fullName (.message message) :=
  lastDeclared_of_owner? (message?_eq_some_iff.mp h)

theorem lastDeclared_of_enum? {fullName : String} {enum : Enum}
    (h : schema.enum? fullName = some enum) : schema.LastDeclared fullName (.enum enum) :=
  lastDeclared_of_owner? (enum?_eq_some_iff.mp h)

/-- A linked field refers to the owner of the name in its descriptor, and to nothing if its type is
neither a message nor an enum. -/
def FieldResolves (schema : Schema) (descriptor : Descriptor.Field) (field : Field) : Prop :=
  match descriptor.type with
  | .message => ∃ message, field.link = .message descriptor.typeName ∧
      schema.referent? field = some (.message message) ∧
      schema.LastDeclared descriptor.typeName (.message message)
  | .enum => ∃ enum, field.link = .enum descriptor.typeName ∧
      schema.referent? field = some (.enum enum) ∧
      schema.LastDeclared descriptor.typeName (.enum enum)
  | _ => field.link = .scalar ∧ schema.referent? field = none

/-- The input and the output of a linked method are the owners of the names in its descriptor. -/
structure MethodResolves (schema : Schema) (descriptor : Descriptor.Method) (method : Method) :
    Prop where
  input : ∃ message, schema.message? method.input = some message ∧
    schema.LastDeclared descriptor.input (.message message)
  output : ∃ message, schema.message? method.output = some message ∧
    schema.LastDeclared descriptor.output (.message message)

/-- The fields of all messages of a file, and its methods, refer to the owners of their names. -/
structure FileResolves (schema : Schema) (descriptor : Descriptor.File) (file : File) :
    Prop where
  fields : ∀ site, Option.Rel
    (fun descriptor message ↦
      List.Forall₂ schema.FieldResolves descriptor.fields message.fields)
    (descriptor.messageAt? site) (file.messageAt? site)
  methods : List.Forall₂
    (fun descriptor service ↦
      List.Forall₂ schema.MethodResolves descriptor.methods service.methods)
    descriptor.services file.services

variable {set : List Descriptor.File}

/-- Assumes: a linked descriptor set. A message owns a name that was resolved as a message. -/
theorem exists_message?_of_link (h : Schema.link set = .ok schema) {fullName : String}
    (howner : ownerKind? (set.flatMap namesOfFile) fullName = some .message) :
    ∃ message, schema.message? fullName = some message := by
  rw [ownerKind?_of_link h] at howner
  obtain ⟨message, hmessage, -⟩ := exists_message?_of_kind howner
  exact ⟨message, hmessage⟩

theorem exists_enum?_of_link (h : Schema.link set = .ok schema) {fullName : String}
    (howner : ownerKind? (set.flatMap namesOfFile) fullName = some .enum) :
    ∃ enum, schema.enum? fullName = some enum := by
  rw [ownerKind?_of_link h] at howner
  obtain ⟨enum, henum, -⟩ := exists_enum?_of_kind howner
  exact ⟨enum, henum⟩

variable {locations : List (List Int × String)} {path : List Int}

theorem fieldResolves_linkField (h : Schema.link set = .ok schema)
    {descriptor : Descriptor.Field} {field : Field}
    (hfield : (Context.mk (set.flatMap namesOfFile) locations).linkField path descriptor =
      .ok field) : schema.FieldResolves descriptor field := by
  obtain ⟨link, hlink, hfield⟩ := exists_of_bind_eq_ok hfield
  cases hfield
  unfold Context.linkType at hlink
  unfold FieldResolves
  split at hlink
  · next htype =>
    obtain ⟨rfl, howner⟩ := Context.map_resolve_eq_ok hlink
    obtain ⟨message, hmessage⟩ := exists_message?_of_link h howner
    rw [htype]
    refine ⟨message, rfl, ?_, lastDeclared_of_message? hmessage⟩
    simp [referent?, hmessage]
  · next htype =>
    obtain ⟨rfl, howner⟩ := Context.map_resolve_eq_ok hlink
    obtain ⟨enum, henum⟩ := exists_enum?_of_link h howner
    rw [htype]
    refine ⟨enum, rfl, ?_, lastDeclared_of_enum? henum⟩
    simp [referent?, henum]
  · next hmessage henum =>
    cases hlink
    cases htype : descriptor.type with
    | message => exact absurd htype hmessage
    | enum => exact absurd htype henum
    | _ => exact ⟨rfl, rfl⟩

theorem methodResolves_linkMethod (h : Schema.link set = .ok schema)
    {descriptor : Descriptor.Method} {method : Method}
    (hmethod : (Context.mk (set.flatMap namesOfFile) locations).linkMethod path descriptor =
      .ok method) : schema.MethodResolves descriptor method := by
  obtain ⟨input, hinput, hmethod⟩ := exists_of_bind_eq_ok hmethod
  obtain ⟨output, houtput, hmethod⟩ := exists_of_bind_eq_ok hmethod
  cases hmethod
  obtain ⟨rfl, hinputOwner⟩ := Context.resolve_eq_ok hinput
  obtain ⟨rfl, houtputOwner⟩ := Context.resolve_eq_ok houtput
  obtain ⟨inputMessage, hinputMessage⟩ := exists_message?_of_link h hinputOwner
  obtain ⟨outputMessage, houtputMessage⟩ := exists_message?_of_link h houtputOwner
  exact ⟨⟨inputMessage, hinputMessage, lastDeclared_of_message? hinputMessage⟩,
    ⟨outputMessage, houtputMessage, lastDeclared_of_message? houtputMessage⟩⟩

theorem fileResolves_of_fileLinked (h : Schema.link set = .ok schema)
    {descriptor : Descriptor.File} {file : File}
    (hfile : FileLinked (set.flatMap namesOfFile) descriptor file) :
    schema.FileResolves descriptor file where
  fields site := by
    refine rel_imp (hfile.fileParts.rel_messageAt? site) fun _ _ hparts ↦ ?_
    exact forall₂_of_mapM_zipIdx hparts.fields fun _ _ _ ↦ fieldResolves_linkField h
  methods := by
    refine forall₂_of_mapM_zipIdx hfile.fileParts.services fun _ _ service hservice ↦ ?_
    obtain ⟨methods, hmethods, hservice⟩ := exists_of_bind_eq_ok hservice
    cases hservice
    exact forall₂_of_mapM_zipIdx hmethods fun _ _ _ ↦ methodResolves_linkMethod h

end Schema

/-- Linking returns if and only if each reference is owned. Otherwise it reports the first one that
is not. The schema it returns declares the names of the descriptor set in the same order, and what a
field or a method refers to is the last declaration of the name. -/
theorem link_resolves (set : List Descriptor.File) :
    (Returns (Schema.link set) ↔ ∀ r ∈ references set, r.Owned set) ∧
    (∀ e, Schema.link set = .error e ↔ ∃ before r after,
      references set = before ++ r :: after ∧ (∀ earlier ∈ before, earlier.Owned set) ∧
        ¬r.Owned set ∧ e = r.error) ∧
    ∀ schema, Schema.link set = .ok schema →
      schema.types.map NamedType.key = set.flatMap namesOfFile ∧
        List.Forall₂ schema.FileResolves set schema.files := by
  simp only [owned_iff]
  refine ⟨(decides_link set).returns_iff, fun e ↦ (decides_link set).eq_error_iff, ?_⟩
  intro schema hschema
  refine ⟨keys_of_link hschema, (fileLinked_of_link hschema).imp fun _ _ ↦ ?_⟩
  exact Schema.fileResolves_of_fileLinked hschema

/-! ### A post office -/

namespace Post

/-- The letters of a post office, which contain items; an enum has the name of an item. -/
def letters : Descriptor.File where
  name := "letters.proto"
  package := "post"
  messages := [
    { name := "Letter"
      fields := [
        { name := "stamps", jsonName := some "stamps", type := .int32 },
        { name := "item", jsonName := some "item", type := .message, typeName := ".post.Item" }] }]
  enums := [{ name := "Item", values := [("PLAIN", 0)] }]

/-- The parcels of a post office, where an item is a message. -/
def parcels : Descriptor.File where
  name := "parcels.proto"
  package := "post"
  messages := [{ name := "Item" }]

/-- The reference from a letter to its item. -/
def item : Reference :=
  ⟨.message, ".post.Item"⟩

/-- The last file says what an item is. -/
theorem item_owned :
    (∃ schema, Schema.link [letters, parcels] = .ok schema ∧
      List.Forall₂ schema.FileResolves [letters, parcels] schema.files) ∧
      Schema.link [parcels, letters] = .error item.error := by
  constructor
  · obtain ⟨hreturns, -, hlinks⟩ := link_resolves [letters, parcels]
    have howned : ∀ r ∈ references [letters, parcels], r.Owned [letters, parcels] := by
      intro r hr
      obtain rfl : r = item := List.mem_singleton.mp hr
      exact ⟨[(".post.Letter", .message), (".post.Item", .enum)], [], rfl, by simp⟩
    obtain ⟨schema, hschema⟩ := hreturns.mpr howned
    exact ⟨schema, hschema, (hlinks schema hschema).2⟩
  · obtain ⟨-, herror, -⟩ := link_resolves [parcels, letters]
    refine (herror item.error).mpr ⟨[], item, [], rfl, by simp, ?_, rfl⟩
    rw [owned_iff]
    decide

end Post

end ClientGen
