import ClientGen.Yaml.Value

/-!
# Members of mappings

Access to the members of a mapping by name, where a member that is left out, or is null, has a
default.
-/

set_option autoImplicit false
set_option relaxedAutoImplicit false

namespace ClientGen.Yaml.Value

/-- The member of a mapping with a name, unless it is null. -/
def member? (value : Value) (name : String) : Option Value :=
  match value with
  | .map entries =>
    match entries.find? fun (key, _) ↦ key.sameKey (.str name) with
    | some (_, .null) | none => none
    | some (_, found) => some found
  | _ => none

/-- The text that a value is. -/
def text? : Value → Option String
  | .str text => some text
  | _ => none

/-- The items of a list. -/
def items : Value → List Value
  | .list items => items
  | _ => []

/-- The text under a name. -/
def textAt? (value : Value) (name : String) : Option String :=
  (value.member? name).bind text?

/-- The text under a name, or the empty text. -/
def textAt (value : Value) (name : String) : String :=
  (value.textAt? name).getD ""

/-- The truth value under a name, or false. -/
def flagAt (value : Value) (name : String) : Bool :=
  match value.member? name with
  | some (.bool flag) => flag
  | _ => false

/-- The items under a name, or none. -/
def itemsAt (value : Value) (name : String) : List Value :=
  ((value.member? name).map items).getD []

/-- The texts in the list under a name. -/
def textsAt (value : Value) (name : String) : List String :=
  (value.itemsAt name).filterMap text?

mutual

/-- How deep the collections of a value are nested. -/
def depth : Value → Nat
  | .list items | .tuple items | .set items => itemsDepth items + 1
  | .map entries => entriesDepth entries + 1
  | _ => 0

/-- How deep the deepest of some values is. -/
def itemsDepth : List Value → Nat
  | [] => 0
  | item :: rest => max item.depth (itemsDepth rest)

/-- How deep the deepest key or value of some entries is. -/
def entriesDepth : List (Value × Value) → Nat
  | [] => 0
  | (key, value) :: rest => max (max key.depth value.depth) (entriesDepth rest)

end

end ClientGen.Yaml.Value
