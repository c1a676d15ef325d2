import ClientGen.Proofs.Linking

/-!
# Sites of declarations

A `Site` says where a declaration stands in its file: in which list, at which position, and inside
which other declaration. Each site has its source path, which consists of the numbers of the lists
and the positions on the way from the file to the declaration, and no two sites share a path
(`Site.path_injective`). A number alone does not tell the list, as fields, enum values and methods
have the same one; what precedes it does.

A site can be looked up in a file that was read and in the file that was linked from it alike.
`FileParts.rel_messageAt?` and `FileParts.rel_enumAt?` show that both have a declaration there or
none has, and that the one was linked from the other, at the path of the site and inside the
message around it.
-/

set_option autoImplicit false
set_option relaxedAutoImplicit false

namespace ClientGen

open Declaration Linking

/-! ### Sites and their paths -/

/-- Where a message stands: among the messages of the file, or among those nested in another one. -/
inductive MessageSite
  | top (i : Nat)
  | nested (outer : MessageSite) (i : Nat)
  deriving DecidableEq, Repr

/-- Where an enum stands: among the enums of the file, or among those nested in a message. -/
inductive EnumSite
  | top (i : Nat)
  | nested (outer : MessageSite) (i : Nat)
  deriving DecidableEq, Repr

/-- Where a declaration stands in its file. -/
inductive Site
  | message (site : MessageSite)
  | field (owner : MessageSite) (i : Nat)
  | enum (site : EnumSite)
  | value (owner : EnumSite) (i : Nat)
  | service (i : Nat)
  | method (owner i : Nat)
  deriving DecidableEq, Repr

/-- The site of the message around a message. -/
def MessageSite.outer? : MessageSite → Option MessageSite
  | top _ => none
  | nested outer _ => some outer

/-- The site of the message around an enum. -/
def EnumSite.outer? : EnumSite → Option MessageSite
  | top _ => none
  | nested outer _ => some outer

/-- The source path of a message. -/
def MessageSite.path : MessageSite → List Int
  | top i => Place.fileMessage.path [] i
  | nested outer i => Place.nestedMessage.path outer.path i

/-- The source path of an enum. -/
def EnumSite.path : EnumSite → List Int
  | top i => Place.fileEnum.path [] i
  | nested outer i => Place.nestedEnum.path outer.path i

/-- The source path of a declaration. -/
def Site.path : Site → List Int
  | message site => site.path
  | field owner i => Place.messageField.path owner.path i
  | enum site => site.path
  | value owner i => Place.enumValue.path owner.path i
  | service i => Place.fileService.path [] i
  | method owner i => Place.serviceMethod.path (Place.fileService.path [] owner) i

namespace Linking.Place

variable {place other : Place} {path path' : List Int} {i j : Nat}

/-- A path ends with the number of a list and a position in it. -/
theorem path_inj :
    place.path path i = other.path path' j ↔
      path = path' ∧ place.number = other.number ∧ i = j := by
  constructor
  · intro h
    obtain ⟨hfront, hend⟩ := List.append_inj' h rfl
    simp only [List.cons.injEq, Int.natCast_inj, and_true] at hend
    exact ⟨hfront, hend⟩
  · rintro ⟨rfl, hnumber, rfl⟩
    rw [Place.path, Place.path, hnumber]

theorem path_ne_nil : place.path path i ≠ [] := by
  simp [Place.path]

end Linking.Place

namespace MessageSite

theorem path_ne_nil (site : MessageSite) : site.path ≠ [] := by
  cases site with
  | top i => exact Place.path_ne_nil
  | nested outer i => exact Place.path_ne_nil

theorem path_injective : Function.Injective path := by
  intro site other h
  induction site generalizing other with
  | top i =>
    cases other with
    | top j => rw [(Place.path_inj.mp h).2.2]
    | nested outer j => exact absurd (Place.path_inj.mp h).1.symm outer.path_ne_nil
  | nested outer i ih =>
    cases other with
    | top j => exact absurd (Place.path_inj.mp h).1 outer.path_ne_nil
    | nested outer' j =>
      obtain ⟨houter, -, rfl⟩ := Place.path_inj.mp h
      rw [ih houter]

/-- Messages and services are in different lists of a file, and a service holds no message. -/
theorem path_ne_service (site : MessageSite) (i : Nat) :
    site.path ≠ Place.fileService.path [] i := by
  intro h
  cases site with
  | top j => exact absurd (Place.path_inj.mp h).2.1 (by decide)
  | nested outer j => exact outer.path_ne_nil (Place.path_inj.mp h).1

/-- The messages of a file and the enums nested in a message have the same number, but only the
latter stand inside another declaration. -/
theorem path_ne_enum (site : MessageSite) (other : EnumSite) : site.path ≠ other.path := by
  intro h
  cases site with
  | top i =>
    cases other with
    | top j => exact absurd (Place.path_inj.mp h).2.1 (by decide)
    | nested outer j => exact outer.path_ne_nil (Place.path_inj.mp h).1.symm
  | nested outer i =>
    cases other with
    | top j => exact outer.path_ne_nil (Place.path_inj.mp h).1
    | nested outer' j => exact absurd (Place.path_inj.mp h).2.1 (by decide)

end MessageSite

namespace EnumSite

theorem path_injective : Function.Injective path := by
  intro site other h
  cases site with
  | top i =>
    cases other with
    | top j => rw [(Place.path_inj.mp h).2.2]
    | nested outer j => exact absurd (Place.path_inj.mp h).1.symm outer.path_ne_nil
  | nested outer i =>
    cases other with
    | top j => exact absurd (Place.path_inj.mp h).1 outer.path_ne_nil
    | nested outer' j =>
      obtain ⟨houter, -, rfl⟩ := Place.path_inj.mp h
      rw [MessageSite.path_injective houter]

theorem path_ne_service (site : EnumSite) (i : Nat) :
    site.path ≠ Place.fileService.path [] i := by
  intro h
  cases site with
  | top j => exact absurd (Place.path_inj.mp h).2.1 (by decide)
  | nested outer j => exact outer.path_ne_nil (Place.path_inj.mp h).1

end EnumSite

/-- The paths of fields, enum values and methods end in the same number; no other path does. -/
theorem MessageSite.path_ne_member {place : Place} (hplace : place.number = 2) (site : MessageSite)
    (path : List Int) (i : Nat) : site.path ≠ place.path path i := by
  intro h
  cases site with
  | top j => exact absurd ((Place.path_inj.mp h).2.1.trans hplace) (by decide)
  | nested outer j => exact absurd ((Place.path_inj.mp h).2.1.trans hplace) (by decide)

theorem EnumSite.path_ne_member {place : Place} (hplace : place.number = 2) (site : EnumSite)
    (path : List Int) (i : Nat) : site.path ≠ place.path path i := by
  intro h
  cases site with
  | top j => exact absurd ((Place.path_inj.mp h).2.1.trans hplace) (by decide)
  | nested outer j => exact absurd ((Place.path_inj.mp h).2.1.trans hplace) (by decide)

/-- No two declarations of a file have one path. -/
theorem Site.path_injective : Function.Injective Site.path := by
  intro site other h
  cases site with
  | message a =>
    cases other with
    | message b => rw [MessageSite.path_injective h]
    | enum b => exact absurd h (a.path_ne_enum b)
    | service j => exact absurd h (a.path_ne_service j)
    | field b j | value b j | method b j => exact absurd h (a.path_ne_member rfl _ j)
  | enum a =>
    cases other with
    | message b => exact absurd h.symm (b.path_ne_enum a)
    | enum b => rw [EnumSite.path_injective h]
    | service j => exact absurd h (a.path_ne_service j)
    | field b j | value b j | method b j => exact absurd h (a.path_ne_member rfl _ j)
  | service i =>
    cases other with
    | message b => exact absurd h.symm (b.path_ne_service i)
    | enum b => exact absurd h.symm (b.path_ne_service i)
    | service j => rw [(Place.path_inj.mp h).2.2]
    | field b j | value b j | method b j => exact absurd (Place.path_inj.mp h).2.1 (by decide)
  | field a i =>
    cases other with
    | message b => exact absurd h.symm (b.path_ne_member rfl _ i)
    | enum b => exact absurd h.symm (b.path_ne_member rfl _ i)
    | service j => exact absurd (Place.path_inj.mp h).2.1 (by decide)
    -- The last two items are no help from here on, but what precedes them is the path of the owner.
    | field b j =>
      obtain ⟨howner, -, rfl⟩ := Place.path_inj.mp h
      rw [MessageSite.path_injective howner]
    | value b j => exact absurd (Place.path_inj.mp h).1 (a.path_ne_enum b)
    | method b j => exact absurd (Place.path_inj.mp h).1 (a.path_ne_service b)
  | value a i =>
    cases other with
    | message b => exact absurd h.symm (b.path_ne_member rfl _ i)
    | enum b => exact absurd h.symm (b.path_ne_member rfl _ i)
    | service j => exact absurd (Place.path_inj.mp h).2.1 (by decide)
    | field b j => exact absurd (Place.path_inj.mp h).1.symm (b.path_ne_enum a)
    | value b j =>
      obtain ⟨howner, -, rfl⟩ := Place.path_inj.mp h
      rw [EnumSite.path_injective howner]
    | method b j => exact absurd (Place.path_inj.mp h).1 (a.path_ne_service b)
  | method a i =>
    cases other with
    | message b => exact absurd h.symm (b.path_ne_member rfl _ i)
    | enum b => exact absurd h.symm (b.path_ne_member rfl _ i)
    | service j => exact absurd (Place.path_inj.mp h).2.1 (by decide)
    | field b j => exact absurd (Place.path_inj.mp h).1.symm (b.path_ne_service a)
    | value b j => exact absurd (Place.path_inj.mp h).1.symm (b.path_ne_service a)
    | method b j =>
      obtain ⟨howner, -, rfl⟩ := Place.path_inj.mp h
      rw [(Place.path_inj.mp howner).2.2]

/-! ### Declarations at a site -/

/-- The message at a site of a file that was read. -/
def Descriptor.File.messageAt? (file : Descriptor.File) : MessageSite → Option Descriptor.Message
  | .top i => file.messages[i]?
  | .nested outer i => (file.messageAt? outer).bind fun message ↦ message.messages[i]?

/-- The enum at a site of a file that was read. -/
def Descriptor.File.enumAt? (file : Descriptor.File) : EnumSite → Option Descriptor.Enum
  | .top i => file.enums[i]?
  | .nested outer i => (file.messageAt? outer).bind fun message ↦ message.enums[i]?

namespace Declaration.File

/-- The message at a site of a linked file. -/
def messageAt? (file : File) : MessageSite → Option Message
  | .top i => file.messages[i]?
  | .nested outer i => (file.messageAt? outer).bind fun message ↦ message.messages[i]?

/-- The enum at a site of a linked file. -/
def enumAt? (file : File) : EnumSite → Option Enum
  | .top i => file.enums[i]?
  | .nested outer i => (file.messageAt? outer).bind fun message ↦ message.enums[i]?

/-- The full name of the message at a site, if there is one. -/
def parentAt? (file : File) (outer? : Option MessageSite) : Option String :=
  (outer?.bind file.messageAt?).map Message.fullName

/-- The scope of the types in the message at a site, or else of those in the file. -/
def scopeAt (file : File) (outer? : Option MessageSite) : String :=
  (file.parentAt? outer?).getD (packageScope file.package)

end Declaration.File

/-! ### What linking makes at a site -/

namespace Linking

/-- What a linked message has from its descriptor, its scope and its path. -/
structure MessageParts (context : Context) (scope : String) (parent : Option String)
    (path : List Int) (descriptor : Descriptor.Message) (message : Message) : Prop where
  name : message.name = descriptor.name
  fullName : message.fullName = qualify scope descriptor.name
  comment : message.comment = context.comment path
  mapEntry : message.mapEntry = descriptor.mapEntry
  parent : message.parent = parent
  messages : context.linkMessages message.fullName (some message.fullName) .nestedMessage path 0
    descriptor.messages = .ok message.messages
  fields : (descriptor.fields.zipIdx.mapM fun (field, i) ↦
    context.linkField (Place.messageField.path path i) field) = .ok message.fields
  enums : message.enums = context.linkEnums message.fullName (some message.fullName) .nestedEnum
    path descriptor.enums

/-- What a linked file has from its descriptor. -/
structure FileParts (context : Context) (descriptor : Descriptor.File) (file : File) : Prop where
  name : file.name = descriptor.name
  package : file.package = descriptor.package
  messages : context.linkMessages (packageScope descriptor.package) none .fileMessage [] 0
    descriptor.messages = .ok file.messages
  enums : file.enums = context.linkEnums (packageScope descriptor.package) none .fileEnum []
    descriptor.enums
  services : context.linkServices descriptor = .ok file.services

namespace Context

variable {context : Context} {scope : String} {parent : Option String} {path : List Int}

theorem messageParts_of_linkMessage {descriptor : Descriptor.Message} {message : Message}
    (h : context.linkMessage scope parent path descriptor = .ok message) :
    MessageParts context scope parent path descriptor message := by
  obtain ⟨name, fields, messages, enums, mapEntry⟩ := descriptor
  rw [linkMessage] at h
  obtain ⟨nested, hnested, h⟩ := exists_of_bind_eq_ok h
  obtain ⟨linked, hlinked, h⟩ := exists_of_bind_eq_ok h
  cases h
  exact ⟨rfl, rfl, rfl, rfl, rfl, hnested, hlinked, rfl⟩

/-- The message at a position of a list was linked from the descriptor at that position, at the path
of that position. -/
theorem rel_linkMessages {place : Place} {start : Nat} {descriptors : List Descriptor.Message}
    {messages : List Message}
    (h : context.linkMessages scope parent place path start descriptors = .ok messages) (i : Nat) :
    Option.Rel (MessageParts context scope parent (place.path path (start + i)))
      descriptors[i]? messages[i]? := by
  induction descriptors generalizing start messages i with
  | nil =>
    cases h
    exact .none
  | cons descriptor rest ih =>
    rw [linkMessages] at h
    obtain ⟨first, hfirst, h⟩ := exists_of_bind_eq_ok h
    obtain ⟨others, hothers, h⟩ := exists_of_bind_eq_ok h
    cases h
    cases i with
    | zero => exact .some (messageParts_of_linkMessage hfirst)
    | succ i =>
      have hrest := ih hothers i
      rw [Nat.add_right_comm] at hrest
      exact hrest

/-- The enum at a position of a list was linked from the descriptor at that position. -/
theorem rel_linkEnums {place : Place} (descriptors : List Descriptor.Enum) (i : Nat) :
    Option.Rel (fun descriptor enum ↦
        enum = context.linkEnum scope parent (place.path path i) descriptor)
      descriptors[i]? (context.linkEnums scope parent place path descriptors)[i]? := by
  rw [linkEnums, List.getElem?_map, List.getElem?_zipIdx, Nat.zero_add]
  cases descriptors[i]? with
  | none => exact .none
  | some descriptor => exact .some rfl

end Context

theorem FileLinked.fileParts {names : List (String × TypeKind)} {descriptor : Descriptor.File}
    {file : File} (h : FileLinked names descriptor file) :
    FileParts ⟨names, descriptor.locations⟩ descriptor file := by
  obtain ⟨declaration, services, hdeclaration, hservices, rfl⟩ := h
  obtain ⟨messages, hmessages, hdeclaration⟩ := exists_of_bind_eq_ok hdeclaration
  cases hdeclaration
  exact ⟨rfl, rfl, hmessages, rfl, hservices⟩

namespace FileParts

variable {context : Context} {descriptor : Descriptor.File} {file : File}

/-- By induction on the site: the message around it was linked at its own path, and the nested
messages were linked in order inside that one. -/
theorem rel_messageAt? (h : FileParts context descriptor file) (site : MessageSite) :
    Option.Rel
      (MessageParts context (file.scopeAt site.outer?) (file.parentAt? site.outer?) site.path)
      (descriptor.messageAt? site) (file.messageAt? site) := by
  induction site with
  | top i =>
    have hrel := Context.rel_linkMessages h.messages i
    rw [Nat.zero_add, ← h.package] at hrel
    exact hrel
  | nested outer i ih =>
    rw [Descriptor.File.messageAt?, File.messageAt?, File.scopeAt, File.parentAt?,
      MessageSite.outer?, Option.bind_some]
    generalize descriptor.messageAt? outer = d, file.messageAt? outer = m at ih
    cases ih with
    | none => exact .none
    | some hparts =>
      have hrel := Context.rel_linkMessages hparts.messages i
      rw [Nat.zero_add] at hrel
      exact hrel

theorem rel_enumAt? (h : FileParts context descriptor file) (site : EnumSite) :
    Option.Rel
      (fun descriptor enum ↦ enum = context.linkEnum (file.scopeAt site.outer?)
        (file.parentAt? site.outer?) site.path descriptor)
      (descriptor.enumAt? site) (file.enumAt? site) := by
  cases site with
  | top i =>
    have hscope : file.scopeAt none = packageScope descriptor.package := by
      rw [← h.package]
      rfl
    rw [Descriptor.File.enumAt?, File.enumAt?, EnumSite.outer?, hscope, h.enums]
    exact Context.rel_linkEnums descriptor.enums i
  | nested outer i =>
    have hmessage := h.rel_messageAt? outer
    rw [Descriptor.File.enumAt?, File.enumAt?, File.scopeAt, File.parentAt?, EnumSite.outer?,
      Option.bind_some]
    generalize descriptor.messageAt? outer = d, file.messageAt? outer = m at hmessage
    cases hmessage with
    | none => exact .none
    | @some descriptor message hparts =>
      rw [Option.bind_some, Option.bind_some, hparts.enums]
      exact Context.rel_linkEnums descriptor.enums i

end FileParts

end Linking

end ClientGen
