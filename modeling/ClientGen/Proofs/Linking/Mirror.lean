import ClientGen.Proofs.Linking.Site

/-!
# Linked files mirror the files that were read

Linking keeps the shape of a file. At every site both the linked file and the file that was read
have a declaration, or neither has one, and the two agree in what was declared (`FileMirrors`). What
linking adds follows from the site: a type carries the full name of the message around it, and its
own full name is its name behind that one; and the comment on a declaration is the last text among
the locations of the file that have the path of its site (`CommentOf`). Since different sites have
different paths, a location comments one declaration at most.
-/

set_option autoImplicit false
set_option relaxedAutoImplicit false

namespace ClientGen

open Declaration Linking

/-! ### Comments by path -/

/-- The comment on a path: the clean text of the last location there that has a text, or nothing if
no location there has one. -/
def Linking.CommentOf (locations : List (List Int × String)) (path : List Int)
    (comment : String) : Prop :=
  (∃ before text after, locations = before ++ (path, text) :: after ∧ text ≠ "" ∧
    (∀ location ∈ after, location.1 = path → location.2 = "") ∧ comment = Comment.clean text) ∨
  (∀ location ∈ locations, location.1 = path → location.2 = "") ∧ comment = ""

namespace Linking

theorem commentOf_commentAt (locations : List (List Int × String)) (path : List Int) :
    CommentOf locations path (commentAt locations path) := by
  unfold commentAt
  split
  · next location text hfind =>
    left
    obtain ⟨hmatch, before, after, hsplit, hlater⟩ := find?_reverse_eq_some_iff.mp hfind
    simp only [ne_eq, decide_not, Bool.and_eq_true, decide_eq_true_eq, Bool.not_eq_true',
      decide_eq_false_iff_not] at hmatch
    obtain ⟨rfl, htext⟩ := hmatch
    refine ⟨before, text, after, hsplit, htext, fun later hmem hpath ↦ ?_, rfl⟩
    simpa [hpath] using hlater later hmem
  · next hfind =>
    right
    refine ⟨fun location hmem hpath ↦ ?_, rfl⟩
    simpa [hpath] using List.find?_eq_none.mp hfind location (List.mem_reverse.mpr hmem)

end Linking

/-! ### Declarations that mirror others -/

/-- A linked field has what its descriptor says, and the comment on its site. -/
structure FieldMirrors (locations : List (List Int × String)) (site : Site)
    (descriptor : Descriptor.Field) (field : Field) : Prop where
  name : field.name = descriptor.name
  jsonName : field.jsonName = descriptor.jsonName.getD (FieldName.json descriptor.name)
  type : field.type = descriptor.type
  repeated : field.repeated = descriptor.repeated
  comment : CommentOf locations site.path field.comment

/-- A linked message has what its descriptor says, the comment on its site, and its place among the
types; its fields mirror those of the descriptor in order. -/
structure MessageMirrors (origin : Descriptor.File) (file : File) (site : MessageSite)
    (descriptor : Descriptor.Message) (message : Message) : Prop where
  name : message.name = descriptor.name
  mapEntry : message.mapEntry = descriptor.mapEntry
  parent : message.parent = file.parentAt? site.outer?
  fullName : message.fullName = file.scopeAt site.outer? ++ "." ++ descriptor.name
  comment : CommentOf origin.locations (Site.message site).path message.comment
  fields : ∀ i, Option.Rel (FieldMirrors origin.locations (.field site i))
    descriptor.fields[i]? message.fields[i]?

/-- A linked enum value has its name and number, and the comment on its site. -/
structure EnumValueMirrors (locations : List (List Int × String)) (site : Site)
    (descriptor : String × Int) (value : EnumValue) : Prop where
  name : value.name = descriptor.1
  number : value.number = descriptor.2
  comment : CommentOf locations site.path value.comment

/-- A linked enum has its name, the comment on its site, and its place among the types; its values
mirror those of the descriptor in order. -/
structure EnumMirrors (origin : Descriptor.File) (file : File) (site : EnumSite)
    (descriptor : Descriptor.Enum) (enum : Enum) : Prop where
  name : enum.name = descriptor.name
  parent : enum.parent = file.parentAt? site.outer?
  fullName : enum.fullName = file.scopeAt site.outer? ++ "." ++ descriptor.name
  comment : CommentOf origin.locations (Site.enum site).path enum.comment
  values : ∀ i, Option.Rel (EnumValueMirrors origin.locations (.value site i))
    descriptor.values[i]? enum.values[i]?

/-- A linked method has what its descriptor says, and the comment on its site. -/
structure MethodMirrors (locations : List (List Int × String)) (site : Site)
    (descriptor : Descriptor.Method) (method : Method) : Prop where
  name : method.name = descriptor.name
  input : method.input = descriptor.input
  output : method.output = descriptor.output
  clientStreaming : method.clientStreaming = descriptor.clientStreaming
  serverStreaming : method.serverStreaming = descriptor.serverStreaming
  rule : method.rule = descriptor.rule
  comment : CommentOf locations site.path method.comment

/-- A linked service has its name, the name of its file and the comment on its site; its methods
mirror those of the descriptor in order. -/
structure ServiceMirrors (origin : Descriptor.File) (i : Nat) (descriptor : Descriptor.Service)
    (service : Service) : Prop where
  name : service.name = descriptor.name
  file : service.file = origin.name
  comment : CommentOf origin.locations (Site.service i).path service.comment
  methods : ∀ j, Option.Rel (MethodMirrors origin.locations (.method i j))
    descriptor.methods[j]? service.methods[j]?

/-- A linked file has declarations at the sites at which the file that was read has some, and they
mirror each other. -/
structure FileMirrors (descriptor : Descriptor.File) (file : File) : Prop where
  name : file.name = descriptor.name
  package : file.package = descriptor.package
  messages : ∀ site, Option.Rel (MessageMirrors descriptor file site)
    (descriptor.messageAt? site) (file.messageAt? site)
  enums : ∀ site, Option.Rel (EnumMirrors descriptor file site)
    (descriptor.enumAt? site) (file.enumAt? site)
  services : ∀ i, Option.Rel (ServiceMirrors descriptor i)
    descriptor.services[i]? file.services[i]?

/-! ### What linking makes mirrors what it reads -/

namespace Linking

variable {context : Context} {descriptor : Descriptor.File} {file : File}

theorem Context.commentOf_comment (context : Context) (path : List Int) :
    CommentOf context.locations path (context.comment path) :=
  commentOf_commentAt context.locations path

theorem Context.fieldMirrors_linkField {owner : MessageSite} {i : Nat}
    {descriptor : Descriptor.Field} {field : Field}
    (h : context.linkField (Place.messageField.path owner.path i) descriptor = .ok field) :
    FieldMirrors context.locations (.field owner i) descriptor field := by
  obtain ⟨link, -, h⟩ := exists_of_bind_eq_ok h
  cases h
  exact ⟨rfl, rfl, rfl, rfl, context.commentOf_comment (Site.field owner i).path⟩

theorem Context.methodMirrors_linkMethod {i j : Nat} {descriptor : Descriptor.Method}
    {method : Method}
    (h : context.linkMethod (Place.serviceMethod.path (Place.fileService.path [] i) j) descriptor =
      .ok method) : MethodMirrors context.locations (.method i j) descriptor method := by
  obtain ⟨input, hinput, h⟩ := exists_of_bind_eq_ok h
  obtain ⟨output, houtput, h⟩ := exists_of_bind_eq_ok h
  cases h
  obtain ⟨rfl, -⟩ := resolve_eq_ok hinput
  obtain ⟨rfl, -⟩ := resolve_eq_ok houtput
  exact ⟨rfl, rfl, rfl, rfl, rfl, rfl, context.commentOf_comment (Site.method i j).path⟩

theorem Context.rel_linkEnum {scope : String} {parent : Option String} {site : EnumSite}
    (descriptor : Descriptor.Enum) (i : Nat) :
    Option.Rel (EnumValueMirrors context.locations (.value site i)) descriptor.values[i]?
      (context.linkEnum scope parent site.path descriptor).values[i]? := by
  rw [linkEnum, List.getElem?_map, List.getElem?_zipIdx, Nat.zero_add]
  cases descriptor.values[i]? with
  | none => exact .none
  | some value => exact .some ⟨rfl, rfl, context.commentOf_comment (Site.value site i).path⟩

namespace FileParts

theorem messageMirrors {origin : Descriptor.File} {site : MessageSite}
    {descriptor : Descriptor.Message} {message : Message}
    (hlocations : context.locations = origin.locations)
    (h : MessageParts context (file.scopeAt site.outer?) (file.parentAt? site.outer?) site.path
      descriptor message) : MessageMirrors origin file site descriptor message where
  name := h.name
  mapEntry := h.mapEntry
  parent := h.parent
  fullName := h.fullName
  comment := by
    rw [h.comment, ← hlocations]
    exact context.commentOf_comment site.path
  fields i := by
    rw [← hlocations]
    refine rel_imp (rel_getElem?_of_mapM_zipIdx h.fields i) fun _ _ hfield ↦ ?_
    exact Context.fieldMirrors_linkField hfield

theorem enumMirrors {origin : Descriptor.File} {site : EnumSite} (descriptor : Descriptor.Enum)
    (hlocations : context.locations = origin.locations) :
    EnumMirrors origin file site descriptor (context.linkEnum (file.scopeAt site.outer?)
      (file.parentAt? site.outer?) site.path descriptor) where
  name := rfl
  parent := rfl
  fullName := rfl
  comment := by
    rw [← hlocations]
    exact context.commentOf_comment site.path
  values i := by
    rw [← hlocations]
    exact Context.rel_linkEnum descriptor i

theorem serviceMirrors {origin : Descriptor.File} {i : Nat} {descriptor : Descriptor.Service}
    {service : Service} (hlocations : context.locations = origin.locations)
    (h : context.linkService origin.name (Place.fileService.path [] i) descriptor = .ok service) :
    ServiceMirrors origin i descriptor service := by
  obtain ⟨methods, hmethods, h⟩ := exists_of_bind_eq_ok h
  cases h
  refine ⟨rfl, rfl, ?_, fun j ↦ ?_⟩
  · rw [← hlocations]
    exact context.commentOf_comment (Site.service i).path
  · rw [← hlocations]
    refine rel_imp (rel_getElem?_of_mapM_zipIdx hmethods j) fun _ _ hmethod ↦ ?_
    exact Context.methodMirrors_linkMethod hmethod

theorem fileMirrors (h : FileParts context descriptor file)
    (hlocations : context.locations = descriptor.locations) : FileMirrors descriptor file where
  name := h.name
  package := h.package
  messages site := rel_imp (h.rel_messageAt? site) fun _ _ ↦ messageMirrors hlocations
  enums site := by
    refine rel_imp (h.rel_enumAt? site) fun enum linked hlinked ↦ ?_
    rw [hlinked]
    exact enumMirrors enum hlocations
  services i := rel_imp (rel_getElem?_of_mapM_zipIdx h.services i) fun _ _ ↦
    serviceMirrors hlocations

end FileParts

end Linking

/-- Assumes: a descriptor set that was linked. Its files are those of the set, in order, and each
has the same declarations in the same places, with their names, their parents and the comments that
stand at their paths; and the paths of different declarations are different. -/
theorem link_mirrors {set : List Descriptor.File} {schema : Schema}
    (h : Schema.link set = .ok schema) :
    List.Forall₂ FileMirrors set schema.files ∧ Function.Injective Site.path :=
  ⟨(fileLinked_of_link h).imp fun _ _ hfile ↦ hfile.fileParts.fileMirrors rfl, Site.path_injective⟩

/-! ### An atlas -/

namespace Atlas

/-- The file of an atlas. A map holds tiles, and the locations speak of a tile three times. -/
def descriptor : Descriptor.File where
  name := "atlas.proto"
  package := "atlas"
  messages := [
    { name := "Map"
      fields := [
        { name := "tiles", jsonName := some "tiles", type := .message, repeated := true
          typeName := ".atlas.Map.Tile" }]
      messages := [
        { name := "Tile"
          fields := [
            { name := "kind", jsonName := some "kind", type := .enum
              typeName := ".atlas.Map.Tile.Kind" }]
          enums := [{ name := "Kind", values := [("LAND", 0), ("SEA", 1)] }] }] }]
  locations := [
    ([4, 0, 3, 0], " An old tile."),
    ([4, 0, 3, 0, 2, 0], " Its kind."),
    ([4, 0, 3, 0, 4, 0, 2, 1], " Water.\n"),
    ([4, 0, 3, 0], " A tile. \n It is square.\n"),
    ([4, 0, 3, 0], "")]

/-- A tile. -/
def tile : Message :=
  ⟨"Tile", ".atlas.Map.Tile", "A tile.\nIt is square.", false, some ".atlas.Map",
    [⟨"kind", "kind", .enum, false, "Its kind.", .enum ".atlas.Map.Tile.Kind"⟩], [],
    [⟨"Kind", ".atlas.Map.Tile.Kind", "", some ".atlas.Map.Tile",
      [⟨"LAND", 0, ""⟩, ⟨"SEA", 1, "Water."⟩]⟩]⟩

/-- The linked file of the atlas. -/
def file : File :=
  ⟨"atlas.proto", "atlas",
    [⟨"Map", ".atlas.Map", "", false, none,
      [⟨"tiles", "tiles", .message, true, "", .message ".atlas.Map.Tile"⟩], [tile], []⟩], [], []⟩

theorem link_eq : Schema.link [descriptor] = .ok ⟨[file]⟩ := by
  rfl

/-- The tile has the last text at its path, and no other declaration has that path. -/
theorem tile_mirrored :
    CommentOf descriptor.locations [4, 0, 3, 0] "A tile.\nIt is square." ∧
      tile.fullName = ".atlas.Map" ++ "." ++ "Tile" ∧
      ∀ site : Site, site.path = [4, 0, 3, 0] → site = .message (.nested (.top 0) 0) := by
  obtain ⟨hfiles, hpaths⟩ := link_mirrors link_eq
  cases hfiles with
  | cons hfile _ =>
    cases hfile.messages (.nested (.top 0) 0) with
    | some htile => exact ⟨htile.comment, htile.fullName, fun site hsite ↦ hpaths hsite⟩

end Atlas

end ClientGen
