import ClientGen.Yaml.Tag

/-!
# Graphs of nodes

The structure of a document: scalars, sequences and mappings with their tags. Nodes refer to each
other by their numbers, so that several aliases share a node, and a node may hold itself. The parts
that a number without a node would have are those of an empty scalar.
-/

set_option autoImplicit false
set_option relaxedAutoImplicit false

namespace ClientGen.Yaml

/-- An entry of a mapping: the numbers of its key and of its value. -/
abbrev Entry := Nat × Nat

/-- What a node holds. -/
inductive Body
  | scalar (text : String)
  | sequence (items : List Nat)
  | mapping (entries : List Entry)
  deriving DecidableEq, Repr

/-- A node. -/
structure Node where
  tag : Tag
  body : Body
  deriving DecidableEq, Repr

/-- The nodes of a document by their numbers. -/
structure Graph where
  nodes : Array Node := #[]

namespace Graph

/-- How many nodes there are. -/
def size (graph : Graph) : Nat :=
  graph.nodes.size

/-- The tag of a node. -/
def tag (graph : Graph) (n : Nat) : Tag :=
  graph.nodes[n]?.elim .null (·.tag)

/-- What a node holds. -/
def body (graph : Graph) (n : Nat) : Body :=
  graph.nodes[n]?.elim (.scalar "") (·.body)

/-- The entries of a mapping; any other node has none. -/
def entries (graph : Graph) (n : Nat) : List Entry :=
  match graph.body n with
  | .mapping entries => entries
  | _ => []

/-- The graph with one more node, whose number is the size of the graph before. -/
def add (node : Node) (graph : Graph) : Graph :=
  ⟨graph.nodes.push node⟩

/-- The graph with another body for a node. -/
def setBody (n : Nat) (body : Body) (graph : Graph) : Graph :=
  ⟨graph.nodes.modify n fun node ↦ { node with body := body }⟩

/-- The graph with another tag for a node. -/
def setTag (n : Nat) (tag : Tag) (graph : Graph) : Graph :=
  ⟨graph.nodes.modify n fun node ↦ { node with tag := tag }⟩

end Graph

end ClientGen.Yaml
