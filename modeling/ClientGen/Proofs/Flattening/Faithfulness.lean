import ClientGen.Proofs.Flattening.Budget
import ClientGen.Proofs.Flattening.Outcome

/-!
# Records are faithful to one naming

A run names types while it walks their fields, so that a field is recorded while the table of flat
names still grows, and perhaps while the type it refers to is only half walked. Still the records
agree with the table as it stands at the end (`flatten_faithful`): the table gives each full name
one flat name, and each record is, under that table, the record of the first declaration that was
given its name. `Shop` is a service whose types form a cycle, with nested types that are first
reached through a field.
-/

set_option autoImplicit false
set_option relaxedAutoImplicit false

namespace ClientGen

open Declaration Flattening

/-- The records of a service are, by a table of flat names, those of the first declarations that
were given their names; what their fields refer to is settled. -/
structure Flattening.Faithful (schema : Schema) (given : List (String × String))
    (flat : Record.Service) : Prop where
  messages : ∀ record ∈ flat.messages, ∃ message,
    firstGiven? schema.message? given record.name = some message ∧
    (∀ field ∈ message.fields, FieldSettled schema given field) ∧
    record = schema.flatMessage given message
  enums : ∀ record ∈ flat.enums, ∃ enum,
    firstGiven? schema.enum? given record.name = some enum ∧
    record = Schema.flatEnum given enum

/-- Assumes: a linked descriptor set. The records of a state are faithful to its table. -/
theorem Flattening.Sound.faithful_result {set : List Descriptor.File} {c : Context}
    {service : Service} {s : State} (h : Sound c service s)
    (hlink : Schema.link set = .ok c.schema) :
    Faithful c.schema s.given (s.result service).service where
  messages := by
    intro record hrecord
    obtain ⟨message, hfirst, hnamed, heq⟩ := h.exists_flatMessage hrecord
    have hmem := mem_types_of_firstGiven? hfirst
    refine ⟨message, hfirst, fun field hfield ↦ ?_, heq⟩
    exact (hnamed field hfield).settled (Schema.linked_of_link hlink) hmem hfield
  enums := fun _ ↦ h.exists_flatEnum

/-- Assumes: a linked descriptor set, a service of one of its files, and a result of flattening it.
The table at the end of the run names each type once, and the records are faithful to it. -/
theorem flatten_faithful {set : List Descriptor.File} {schema : Schema} {file : File}
    {service : Service} {strict : Bool} {result : Result} (hlink : Schema.link set = .ok schema)
    (hfile : file ∈ schema.files) (hservice : service ∈ file.services)
    (hresult : flatten schema strict service = .ok result) :
    ∃ s, Context.run ⟨schema, service.name, strict⟩ service.methods = .ok s ∧
      s.result service = result ∧ (s.given.map Prod.fst).Nodup ∧
      Faithful schema s.given result.service := by
  obtain ⟨s, hruns, rfl, -, hsound⟩ := exists_sound_of_flatten hlink hfile hservice hresult
  exact ⟨s, hruns.eq_ok, rfl, hsound.tabled.fullNames, hsound.faithful_result hlink⟩

namespace Shop

/-- The descriptors of a shop. -/
def descriptors : List Descriptor.File :=
  [{ name := "shop.proto"
     package := "shop"
     messages := [
       { name := "Order"
         fields := [
           { name := "lines", jsonName := some "lines", type := .message, repeated := true
             typeName := ".shop.Order.Line" },
           { name := "status", jsonName := some "status", type := .enum
             typeName := ".shop.Order.Status" },
           { name := "placed", jsonName := some "placed", type := .message
             typeName := ".shop.Timestamp" },
           { name := "seal", jsonName := some "seal", type := .bytes }]
         messages := [
           { name := "Line"
             fields := [{ name := "order", jsonName := some "order", type := .message
                          typeName := ".shop.Order" }] }]
         enums := [{ name := "Status", values := [("OPEN", 0)] }] },
       { name := "Timestamp" }]
     services := [
       { name := "Shop"
         methods := [
           { name := "Place", input := ".shop.Order", output := ".shop.Order"
             rule := some ⟨some (.post "/orders")⟩ },
           { name := "Find", input := ".shop.Order.Line", output := ".shop.Order"
             rule := some ⟨some (.get "/lines")⟩ }] }] }]

/-- A line of an order, which leads back to the order. -/
def line : Message :=
  ⟨"Line", ".shop.Order.Line", "", false, some ".shop.Order",
    [⟨"order", "order", .message, false, "", .message ".shop.Order"⟩], [], []⟩

/-- The status of an order. -/
def status : Enum :=
  ⟨"Status", ".shop.Order.Status", "", some ".shop.Order", [⟨"OPEN", 0, ""⟩]⟩

/-- An order. -/
def order : Message :=
  ⟨"Order", ".shop.Order", "", false, none, [
    ⟨"lines", "lines", .message, true, "", .message ".shop.Order.Line"⟩,
    ⟨"status", "status", .enum, false, "", .enum ".shop.Order.Status"⟩,
    ⟨"placed", "placed", .message, false, "", .message ".shop.Timestamp"⟩,
    ⟨"seal", "seal", .bytes, false, "", .scalar⟩], [line], [status]⟩

/-- The service of the shop: orders are placed, and found by their lines. -/
def service : Service :=
  ⟨"Shop", "", "shop.proto", [
    ⟨"Place", ".shop.Order", ".shop.Order", false, false, "", some ⟨some (.post "/orders")⟩⟩,
    ⟨"Find", ".shop.Order.Line", ".shop.Order", false, false, "", some ⟨some (.get "/lines")⟩⟩]⟩

/-- The file of the shop. -/
def file : File :=
  ⟨"shop.proto", "shop",
    [order, ⟨"Timestamp", ".shop.Timestamp", "", false, none, [], [], []⟩], [], [service]⟩

/-- The linked shop. -/
def schema : Schema :=
  ⟨[file]⟩

/-- The records of the shop. -/
def flat : Record.Service where
  name := "Shop"
  comment := ""
  calls := [
    ⟨"Place", "POST", "/orders", "Order", "Order", ""⟩,
    ⟨"Find", "GET", "/lines", "Line", "Order", ""⟩]
  messages := [
    ⟨"Order_Line", "", [⟨"order", "TYPE_MESSAGE", .reference "Order" false, ""⟩]⟩,
    ⟨"Order", "", [
      ⟨"lines", "TYPE_MESSAGE", .reference "Order_Line" true, ""⟩,
      ⟨"status", "TYPE_ENUM", .reference "Order_Status" false, ""⟩,
      ⟨"placed", "TYPE_STRING", .scalar "TYPE_STRING" false, ""⟩,
      ⟨"seal", "TYPE_BYTES", .scalar "TYPE_BYTES" false, ""⟩]⟩]
  enums := [⟨"Order_Status", "", [⟨"OPEN", 0, ""⟩]⟩]

/-- The result of flattening the shop. -/
def result : Result :=
  ⟨flat, [⟨"Order", ".shop.Order", 0⟩, ⟨"Order_Line", ".shop.Order.Line", 0⟩], []⟩

theorem link_eq : Schema.link descriptors = .ok schema := by
  rfl

theorem flatten_eq (strict : Bool) : flatten schema strict service = .ok result := by
  simp only [flatten, service, List.foldlM_cons, List.foldlM_nil, Context.walkMethod,
    Context.walkRoute, Context.walkMessage, Context.drain_eq]
  cases strict with
  | false => decide +kernel
  | true => decide +kernel

theorem file_mem : file ∈ schema.files :=
  List.mem_singleton_self file

theorem service_mem : service ∈ file.services :=
  List.mem_singleton_self service

theorem flat_faithful :
    ∃ s, Context.run ⟨schema, "Shop", true⟩ service.methods = .ok s ∧
      s.result service = result ∧ (s.given.map Prod.fst).Nodup ∧ Faithful schema s.given flat :=
  flatten_faithful link_eq file_mem service_mem (flatten_eq true)

end Shop

end ClientGen
