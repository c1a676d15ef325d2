import ClientGen.Proofs.Linking
import Mathlib.Data.List.Nodup

/-!
# Descriptor sets inside larger ones

Linking a file against more names gives the same file, if each name that had an owner still has one
of its kind (`Context.Widens`). A larger set that declares no full name twice offers such names to
the files of a smaller one (`kind_of_subset`). So a file that occurs in both is linked to the same
declarations (`files_of_subset`), and what the smaller schema owns, the larger one owns
(`owner?_of_subset`), in whatever order the files come.
-/

set_option autoImplicit false
set_option relaxedAutoImplicit false

namespace ClientGen

open Declaration Linking

namespace Linking

namespace Context

/-- The same file against more names: a name with an owner has one of the same kind. -/
structure Widens (small large : Context) : Prop where
  locations : large.locations = small.locations
  kind : ∀ fullName kind, ownerKind? small.names fullName = some kind →
    ownerKind? large.names fullName = some kind

namespace Widens

variable {small large : Context} {scope : String} {parent : Option String} {path : List Int}

theorem comment (h : small.Widens large) (path : List Int) :
    large.comment path = small.comment path := by
  rw [Context.comment, Context.comment, h.locations]

/-- An enum is linked without a look at the names. -/
theorem linkEnums (h : small.Widens large) (place : Place) (enums : List Descriptor.Enum) :
    large.linkEnums scope parent place path enums =
      small.linkEnums scope parent place path enums := by
  simp only [Context.linkEnums, Context.linkEnum, h.comment]

theorem resolve (h : small.Widens large) {expected : TypeKind} {fullName found : String}
    (hresolve : small.resolve expected fullName = .ok found) :
    large.resolve expected fullName = .ok found := by
  obtain ⟨rfl, howner⟩ := resolve_eq_ok hresolve
  rw [Context.resolve, if_pos (h.kind found expected howner)]

theorem map_resolve (h : small.Widens large) {expected : TypeKind} {fullName : String}
    {toLink : String → Link} {link : Link}
    (hlink : (small.resolve expected fullName).map toLink = .ok link) :
    (large.resolve expected fullName).map toLink = .ok link := by
  obtain ⟨rfl, howner⟩ := map_resolve_eq_ok hlink
  rw [Context.resolve, if_pos (h.kind fullName expected howner)]
  rfl

theorem linkType (h : small.Widens large) {descriptor : Descriptor.Field} {link : Link}
    (hlink : small.linkType descriptor = .ok link) : large.linkType descriptor = .ok link := by
  unfold Context.linkType at hlink ⊢
  split at hlink
  · exact h.map_resolve hlink
  · exact h.map_resolve hlink
  · exact hlink

theorem linkField (h : small.Widens large) {descriptor : Descriptor.Field} {field : Field}
    (hfield : small.linkField path descriptor = .ok field) :
    large.linkField path descriptor = .ok field := by
  refine bind_eq_ok_of_imp hfield (fun _ ↦ h.linkType) fun link hlink ↦ ?_
  rw [h.comment]
  exact hlink

mutual

/-- A message is linked to the same declaration. -/
theorem linkMessage {scope : String} {parent : Option String} {path : List Int}
    (h : small.Widens large) : ∀ (descriptor : Descriptor.Message) {message : Message},
      small.linkMessage scope parent path descriptor = .ok message →
        large.linkMessage scope parent path descriptor = .ok message
  | ⟨name, fields, messages, enums, mapEntry⟩, message, hmessage => by
    rw [Context.linkMessage] at hmessage ⊢
    refine bind_eq_ok_of_imp hmessage (fun _ ↦ linkMessages h messages) fun nested hnested ↦ ?_
    refine bind_eq_ok_of_imp hnested (fun _ hfields ↦ ?_) fun fields hfields ↦ ?_
    · exact mapM_eq_ok_of_imp hfields fun _ _ ↦ h.linkField
    · rw [h.comment, h.linkEnums]
      exact hfields

theorem linkMessages {scope : String} {parent : Option String} {place : Place} {path : List Int}
    {i : Nat} (h : small.Widens large) : ∀ (descriptors : List Descriptor.Message)
      {messages : List Message},
      small.linkMessages scope parent place path i descriptors = .ok messages →
        large.linkMessages scope parent place path i descriptors = .ok messages
  | [], messages, hmessages => hmessages
  | descriptor :: rest, messages, hmessages => by
    rw [Context.linkMessages] at hmessages ⊢
    refine bind_eq_ok_of_imp hmessages (fun _ ↦ linkMessage h descriptor) fun first hfirst ↦ ?_
    exact bind_eq_ok_of_imp hfirst (fun _ ↦ linkMessages h rest) fun _ hrest ↦ hrest

end

theorem linkTypes (h : small.Widens large) {descriptor : Descriptor.File} {file : File}
    (hfile : small.linkTypes descriptor = .ok file) : large.linkTypes descriptor = .ok file := by
  refine bind_eq_ok_of_imp hfile (fun _ ↦ linkMessages h _) fun messages hmessages ↦ ?_
  rw [h.linkEnums]
  exact hmessages

theorem linkMethod (h : small.Widens large) {descriptor : Descriptor.Method} {method : Method}
    (hmethod : small.linkMethod path descriptor = .ok method) :
    large.linkMethod path descriptor = .ok method := by
  refine bind_eq_ok_of_imp hmethod (fun _ ↦ h.resolve) fun input hinput ↦ ?_
  refine bind_eq_ok_of_imp hinput (fun _ ↦ h.resolve) fun output houtput ↦ ?_
  rw [h.comment]
  exact houtput

theorem linkService (h : small.Widens large) {file : String} {descriptor : Descriptor.Service}
    {service : Service} (hservice : small.linkService file path descriptor = .ok service) :
    large.linkService file path descriptor = .ok service := by
  refine bind_eq_ok_of_imp hservice (fun _ hmethods ↦ ?_) fun methods hmethods ↦ ?_
  · exact mapM_eq_ok_of_imp hmethods fun _ _ ↦ h.linkMethod
  · rw [h.comment]
    exact hmethods

theorem linkServices (h : small.Widens large) {descriptor : Descriptor.File}
    {services : List Service} (hservices : small.linkServices descriptor = .ok services) :
    large.linkServices descriptor = .ok services :=
  mapM_eq_ok_of_imp hservices fun _ _ ↦ h.linkService

end Widens

end Context

namespace FileLinked

variable {names larger : List (String × TypeKind)} {descriptor : Descriptor.File} {file : File}

theorem widen (h : FileLinked names descriptor file) (hkind : ∀ fullName kind,
    ownerKind? names fullName = some kind → ownerKind? larger fullName = some kind) :
    FileLinked larger descriptor file := by
  obtain ⟨declaration, services, hdeclaration, hservices, rfl⟩ := h
  have hwidens : (Context.mk names descriptor.locations).Widens
      (Context.mk larger descriptor.locations) := ⟨rfl, hkind⟩
  exact ⟨declaration, services, hwidens.linkTypes hdeclaration, hwidens.linkServices hservices,
    rfl⟩

/-- A descriptor and the names around it determine the file. -/
theorem unique {other : File} (h : FileLinked names descriptor file)
    (hother : FileLinked names descriptor other) : file = other := by
  obtain ⟨declaration, services, hdeclaration, hservices, rfl⟩ := h
  obtain ⟨declaration', services', hdeclaration', hservices', rfl⟩ := hother
  obtain rfl : declaration = declaration' :=
    Except.ok.inj (hdeclaration.symm.trans hdeclaration')
  obtain rfl : services = services' := Except.ok.inj (hservices.symm.trans hservices')
  rfl

end FileLinked

end Linking

/-! ### Sets without a second declaration -/

namespace Schema

/-- Where no full name is declared twice, each type owns its name. -/
theorem owner?_of_mem {schema : Schema} (hunique : (schema.types.map NamedType.fullName).Nodup)
    {type : NamedType} (hmem : type ∈ schema.types) : schema.owner? type.fullName = some type := by
  have hsome : (schema.owner? type.fullName).isSome := by
    rw [owner?, List.find?_isSome]
    exact ⟨type, List.mem_reverse.mpr hmem, by simp⟩
  obtain ⟨other, hother⟩ := Option.isSome_iff_exists.mp hsome
  rw [hother]
  exact congrArg some (List.inj_on_of_nodup_map hunique (mem_types_of_owner? hother) hmem
    (fullName_of_owner? hother))

end Schema

section Subset

variable {small large : List Descriptor.File} {part whole : Schema}
  (hpart : Schema.link small = .ok part) (hwhole : Schema.link large = .ok whole)
  (hunique : ((large.flatMap namesOfFile).map Prod.fst).Nodup)
  (hsubset : ∀ descriptor ∈ small, descriptor ∈ large)

include hwhole hunique in
theorem nodup_of_link : (whole.types.map NamedType.fullName).Nodup := by
  rw [← keys_of_link hwhole, List.map_map] at hunique
  exact hunique

include hpart hwhole hunique hsubset

/-- Assumes: two linked sets, the larger of which declares no full name twice and has every file of
the smaller one. A name that the smaller one owns has an owner of its kind in the larger one. -/
theorem kind_of_subset (fullName : String) (kind : TypeKind)
    (hkind : ownerKind? (small.flatMap namesOfFile) fullName = some kind) :
    ownerKind? (large.flatMap namesOfFile) fullName = some kind := by
  rw [ownerKind?_of_link hpart] at hkind
  obtain ⟨type, howner, rfl⟩ := Option.map_eq_some_iff.mp hkind
  have hkey : type.key ∈ small.flatMap namesOfFile := by
    rw [← keys_of_link hpart]
    exact List.mem_map_of_mem (Schema.mem_types_of_owner? howner)
  obtain ⟨descriptor, hdescriptor, hkey⟩ := List.mem_flatMap.mp hkey
  have hkeyLarge : type.key ∈ large.flatMap namesOfFile :=
    List.mem_flatMap.mpr ⟨descriptor, hsubset descriptor hdescriptor, hkey⟩
  rw [← keys_of_link hwhole] at hkeyLarge
  obtain ⟨other, hother, hsame⟩ := List.mem_map.mp hkeyLarge
  obtain ⟨hname, hsameKind⟩ := Prod.mk.inj hsame
  have hotherOwner := Schema.owner?_of_mem (nodup_of_link hwhole hunique) hother
  rw [hname, Schema.fullName_of_owner? howner] at hotherOwner
  rw [ownerKind?_of_link hwhole, hotherOwner, Option.map_some, hsameKind]

/-- A file of the smaller set, linked against the names of the larger one. -/
theorem forall₂_fileLinked_of_subset :
    List.Forall₂ (FileLinked (large.flatMap namesOfFile)) small part.files :=
  (fileLinked_of_link hpart).imp fun _ _ hfile ↦
    hfile.widen (kind_of_subset hpart hwhole hunique hsubset)

/-- Wherever a descriptor stands in the two sets, it is linked to the same file. -/
theorem files_of_subset {i j : Nat} {descriptor : Descriptor.File}
    (hi : small[i]? = some descriptor) (hj : large[j]? = some descriptor) :
    ∃ file, part.files[i]? = some file ∧ whole.files[j]? = some file := by
  obtain ⟨file, hfile, hlinked⟩ := exists_getElem?_of_forall₂
    (forall₂_fileLinked_of_subset hpart hwhole hunique hsubset) hi
  obtain ⟨other, hother, hotherLinked⟩ :=
    exists_getElem?_of_forall₂ (fileLinked_of_link hwhole) hj
  obtain rfl := hlinked.unique hotherLinked
  exact ⟨file, hfile, hother⟩

/-- What a name leads to in the smaller set, it leads to in the larger one. -/
theorem owner?_of_subset {fullName : String} {type : NamedType}
    (howner : part.owner? fullName = some type) : whole.owner? fullName = some type := by
  obtain ⟨file, hfile, htype⟩ := List.mem_flatMap.mp (Schema.mem_types_of_owner? howner)
  obtain ⟨descriptor, hdescriptor, hlinked⟩ := exists_mem_of_forall₂
    (forall₂_fileLinked_of_subset hpart hwhole hunique hsubset) hfile
  obtain ⟨j, hj⟩ := List.mem_iff_getElem?.mp (hsubset descriptor hdescriptor)
  obtain ⟨other, hother, hotherLinked⟩ :=
    exists_getElem?_of_forall₂ (fileLinked_of_link hwhole) hj
  obtain rfl := hlinked.unique hotherLinked
  have htypeWhole : type ∈ whole.types :=
    List.mem_flatMap.mpr ⟨file, List.mem_of_getElem? hother, htype⟩
  have hwholeOwner := Schema.owner?_of_mem (nodup_of_link hwhole hunique) htypeWhole
  rwa [Schema.fullName_of_owner? howner] at hwholeOwner

end Subset

end ClientGen
