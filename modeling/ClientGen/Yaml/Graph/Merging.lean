import ClientGen.Yaml.Fault
import ClientGen.Yaml.Graph

/-!
# Merging mappings

`merge` takes the merge entries out of a mapping and puts the entries of the mappings they name in
front of its own, which take precedence. Of several mappings named in one sequence the first takes
precedence. The mappings named are merged themselves, and a mapping that is named while its own
entries are being merged gives those that it has by then. The key that marks a default value becomes
a text.
-/

set_option autoImplicit false
set_option relaxedAutoImplicit false

namespace ClientGen.Yaml.Graph

/-- The value of the first merge entry of a mapping, and the graph without that entry. -/
def takeMerge? (n : Nat) (graph : Graph) : Option (Nat × Graph) := do
  let entries := graph.entries n
  let place ← entries.findIdx? fun (key, _) ↦ graph.tag key = .merge
  let (_, value) ← entries[place]?
  return (value, graph.setBody n (.mapping (entries.eraseIdx place)))

/-- Makes texts of the keys that mark a default value. -/
def settleKeys (entries : List Entry) (graph : Graph) : Graph :=
  entries.foldl (fun graph (key, _) ↦
    if graph.tag key = .value then graph.setTag key .str else graph) graph

/-- Puts entries in front of those of a mapping, whose keys are settled. -/
def prepend (n : Nat) (merged : List Entry) (graph : Graph) : Graph :=
  let own := graph.entries n
  let graph := graph.settleKeys own
  if merged.isEmpty then graph else graph.setBody n (.mapping (merged ++ own))

mutual

/-- Takes all merge entries out of a mapping: the entries they add, and the graph without them. -/
def takeMerges : Nat → Nat → Graph → Except Fault (List Entry × Graph)
  | 0, _, graph => .ok ([], graph)
  | fuel + 1, n, graph =>
    match graph.takeMerge? n with
    | none => .ok ([], graph)
    | some (value, graph) => do
      let (found, graph) ← match graph.body value with
        | .scalar _ => throw .badMerge
        | .mapping _ => mergedEntries fuel value graph
        | .sequence items => items.foldlM (fun (found, graph) item ↦
            match graph.body item with
            | .mapping _ => do
              let (entries, graph) ← mergedEntries fuel item graph
              return (entries ++ found, graph)
            | _ => throw .badMerge) ([], graph)
      let (more, graph) ← takeMerges fuel n graph
      return (found ++ more, graph)

/-- Merges a mapping and answers the entries that it has then. -/
def mergedEntries : Nat → Nat → Graph → Except Fault (List Entry × Graph)
  | 0, n, graph => .ok (graph.entries n, graph)
  | fuel + 1, n, graph => do
    let (merged, graph) ← takeMerges fuel n graph
    let graph := graph.prepend n merged
    return (graph.entries n, graph)

end

/-- How many merge entries there are. -/
def mergeCount (graph : Graph) : Nat :=
  ((List.range graph.size).map fun n ↦
    (graph.entries n).countP fun (key, _) ↦ graph.tag key = .merge).foldl (· + ·) 0

/-- Merges a mapping. Each merge entry is taken out once, after two levels of recursion at most, so
the fuel is enough. -/
def merge (n : Nat) (graph : Graph) : Except Fault Graph := do
  let (_, graph) ← mergedEntries (2 * graph.mergeCount + 2) n graph
  return graph

end ClientGen.Yaml.Graph
