import ClientGen.Yaml.Graph.Merging
import ClientGen.Yaml.Graph.Reading
import ClientGen.Yaml.Scalar
import ClientGen.Yaml.Token.Reading

/-!
# Loading documents

`load` is the value of a document. Each node is made into a value once, however many aliases it has.
A collection is made empty first, and its members are made when all collections made before it have
theirs; this order decides which of several faults is reported. A document may hold itself, so
`load` looks into collections only so many levels deep.
-/

set_option autoImplicit false
set_option relaxedAutoImplicit false

namespace ClientGen.Yaml

/-- The state of loading: the nodes, the values that have been made of them, and the collections
whose members have not been made, the first made in front. -/
structure Loader where
  graph : Graph
  values : Array (Option Value)
  queue : List Nat := []

/-- A part of loading. -/
abbrev Loading := StateT Loader (Except Fault)

namespace Loading

/-- The text of a node that is used as a scalar. A mapping stands for its first default value. -/
def scalarText (graph : Graph) : Nat → Nat → Except Fault String
  | 0, _ => .error .endless
  | fuel + 1, n =>
    match graph.body n with
    | .scalar text => .ok text
    | .sequence _ => .error .wrongNode
    | .mapping entries =>
      match entries.find? fun (key, _) ↦ graph.tag key = .value with
      | some (_, value) => scalarText graph fuel value
      | none => .error .wrongNode

/-- The value of a node whose tag is one of scalars. A moment is read from a scalar only. -/
def scalarValue (graph : Graph) (n : Nat) : Except Fault Value := do
  let text ← scalarText graph (graph.size + 1) n
  match graph.tag n, graph.body n with
  | .timestamp, .mapping _ => throw .unwrittenMoment
  | tag, _ => Scalar.value tag text

/-- The empty value of a tag of collections. -/
def emptyCollection? : Tag → Option Value
  | .seq | .omap | .pairs => some (.list [])
  | .map => some (.map [])
  | .set => some (.set [])
  | _ => none

/-- The value that has been made of a node. -/
def made? (n : Nat) : Loading (Option Value) := do
  return (← get).values[n]?.bind id

/-- Notes the value of a node. -/
def note (n : Nat) (value : Value) : Loading Unit :=
  modify fun loader ↦ { loader with values := loader.values.setIfInBounds n (some value) }

/-- Makes the value of a node, unless it has been made. -/
def make (n : Nat) : Loading Unit := do
  if (← made? n).isSome then return
  let graph := (← get).graph
  match emptyCollection? (graph.tag n), graph.tag n with
  | some value, _ =>
    note n value
    modify fun loader ↦ { loader with queue := loader.queue ++ [n] }
  | none, .merge | none, .value | none, .other _ => throw .unknownTag
  | none, _ => note n (← scalarValue graph n)

/-- Makes the members of an entry. -/
def makeEntry (entry : Entry) : Loading Unit := do
  make entry.1
  make entry.2

/-- Makes the members of an entry whose key has to be usable as one. -/
def makeKeyed (entry : Entry) : Loading Unit := do
  make entry.1
  if !((← made? entry.1).all Value.isKey) then throw .unusableKey
  make entry.2

/-- Makes the members of a mapping of one entry. -/
def makePair (n : Nat) : Loading Unit := do
  match (← get).graph.body n with
  | .mapping [entry] => makeEntry entry
  | _ => throw .wrongNode

/-- Makes the members of a collection. -/
def fill (n : Nat) : Loading Unit := do
  let graph := (← get).graph
  match graph.tag n, graph.body n with
  | .seq, .sequence items => items.forM make
  | .omap, .sequence items | .pairs, .sequence items => items.forM makePair
  | .map, .mapping _ | .set, .mapping _ => do
    let graph ← graph.merge n
    modify fun loader ↦ { loader with graph := graph }
    (graph.entries n).forM makeKeyed
  | _, _ => throw .wrongNode

/-- Makes the members of all collections in the queue. Each node comes into it once at most, so as
much fuel as there are nodes is enough. -/
def fillAll : Nat → Loading Unit
  | 0 => return ()
  | fuel + 1 => do
    match (← get).queue with
    | [] => return ()
    | n :: rest =>
      modify fun loader ↦ { loader with queue := rest }
      fill n
      fillAll fuel

end Loading

namespace Loader

/-- The value made of a node. -/
def made (loader : Loader) (n : Nat) : Value :=
  (loader.values[n]?.bind id).getD .null

/-- The entries of a mapping with the given values for the members. A key node is the same key as
itself. -/
def entries (loader : Loader) (members : Array Value) (n : Nat) : List (Value × Value) :=
  let same (a b : Nat × Value) : Bool := a.1 = b.1 || a.2.sameKey b.2
  let entries := (loader.graph.entries n).foldl (fun all (key, value) ↦
    Value.insertBy same (key, loader.made key) (members.getD value .null) all) []
  entries.map fun ((_, key), value) ↦ (key, value)

/-- The pair that a mapping of one entry makes, with the given values for the members. -/
def pair (loader : Loader) (members : Array Value) (n : Nat) : Value :=
  match loader.graph.entries n with
  | (key, value) :: _ => .tuple [members.getD key .null, members.getD value .null]
  | [] => .null

/-- The value of a node with the given values for its members. -/
def collected (loader : Loader) (members : Array Value) (n : Nat) : Value :=
  match loader.made n, loader.graph.tag n, loader.graph.body n with
  | .list _, .seq, .sequence items => .list (items.map fun item ↦ members.getD item .null)
  | .list _, _, .sequence items => .list (items.map (loader.pair members))
  | .map _, _, _ => .map (loader.entries members n)
  | .set _, _, _ => .set ((loader.entries members n).map (·.1))
  | value, _, _ => value

/-- The values of all nodes, where collections deeper than a number of levels are empty. -/
def valuesTo (loader : Loader) : Nat → Array Value
  | 0 => (Array.range loader.graph.size).map loader.made
  | levels + 1 => (Array.range loader.graph.size).map (loader.collected (loader.valuesTo levels))

end Loader

/-- The value of the root of a graph, to a number of levels. -/
def Graph.value (levels : Nat) (graph : Graph) (root : Nat) : Except Fault Value := do
  let loading : Loading Unit := do
    Loading.make root
    Loading.fillAll (graph.size + 1)
  let (_, loader) ← loading.run { graph := graph, values := Array.replicate graph.size none }
  return (loader.valuesTo levels).getD root .null

/-- What reads documents: the value of a text, or why it has none. An empty document has no value.
-/
abbrev Reader := String → Except Fault (Option Value)

/-- The value of a document, to a number of levels; an empty document has none. Texts are made of
characters, so an escape for one half of a surrogate pair is refused. -/
def load (levels : Nat) (text : String) : Except Fault (Option Value) := do
  let found ← match tokens text with
    | .ok tokens => Graph.ofTokens? tokens none
    | .error broken => Graph.ofTokens? broken.tokens (some broken.fault)
  match found with
  | none => return none
  | some (graph, root) => some <$> graph.value levels root

end ClientGen.Yaml
