import ToolSites.Node
import ToolSites.OverrideSet
/-!
# The registry of nodes

The known nodes, in the order of their first registration, and the sets of
overrides attached to them. Registering a node again keeps the set attached
under its name; removing a node removes its set.
-/

namespace ToolSites

/-- The known nodes and their sets. -/
structure NodeRegistry where
  nodes : NameMap Node
  overrides : NameMap OverrideSet
  /-- Each node stands under its own name. -/
  named : ∀ {name node}, nodes.find? name = some node → node.name = name
  deriving DecidableEq

namespace NodeRegistry

/-- No nodes. -/
def empty : NodeRegistry := ⟨.empty, .empty, fun h => by simp [NameMap.find?_empty] at h⟩

instance : Inhabited NodeRegistry := ⟨empty⟩

/-- Registers a node in place of the one with its name, or last. -/
def add (r : NodeRegistry) (node : Node) : NodeRegistry where
  nodes := r.nodes.insert node.name node
  overrides := r.overrides
  named := by
    intro name n h
    rw [NameMap.find?_insert] at h
    split at h
    · next he => simp only [Option.some.injEq] at h; rw [← h, he]
    · exact r.named h

/-- Registers one node after the other. -/
def ofList (nodes : List Node) : NodeRegistry := nodes.foldl add empty

/-- The node with the name. -/
def get (r : NodeRegistry) (name : String) : Except Error Node :=
  match r.nodes.find? name with
  | some node => .ok node
  | none => .error (.unknownNode name)

/-- All nodes, in order. -/
def all (r : NodeRegistry) : List Node := r.nodes.values

/-- Whether the name is known. -/
def contains (r : NodeRegistry) (name : String) : Bool := r.nodes.contains name

/-- How many nodes are known. -/
def size (r : NodeRegistry) : Nat := r.nodes.size

/-- The set attached to the node. -/
def overridesFor (r : NodeRegistry) (node : Node) : Option OverrideSet :=
  r.overrides.find? node.name

/-- Attaches a set to a node, in place of the one it has. Its kind is asked before
its name. -/
def attach (r : NodeRegistry) (node : Node) (set : OverrideSet) : Except Error NodeRegistry :=
  if !node.kind.carriesOverrides then .error (.cannotCarry node)
  else if !r.contains node.name then .error (.unknownNode node.name)
  else .ok { r with overrides := r.overrides.insert node.name set }

/-- Takes the set away from a node. -/
def detach (r : NodeRegistry) (node : Node) : NodeRegistry :=
  { r with overrides := r.overrides.erase node.name }

/-- Forgets a node and its set. -/
def remove (r : NodeRegistry) (node : Node) : NodeRegistry where
  nodes := r.nodes.erase node.name
  overrides := r.overrides.erase node.name
  named h := r.named (NameMap.find?_of_erase h)

/-! ## Laws -/

theorem overridesFor_add (r : NodeRegistry) (node other : Node) :
    (r.add node).overridesFor other = r.overridesFor other := rfl

theorem overridesFor_attach {r s : NodeRegistry} {node : Node} {set : OverrideSet}
    (h : r.attach node set = .ok s) (other : Node) :
    s.overridesFor other = if other.name = node.name then some set else r.overridesFor other := by
  unfold attach at h
  split at h
  · cases h
  · split at h
    · cases h
    · cases h
      exact NameMap.find?_insert r.overrides node.name set other.name

theorem overridesFor_detach (r : NodeRegistry) (node other : Node) :
    (r.detach node).overridesFor other =
      if other.name = node.name then none else r.overridesFor other :=
  NameMap.find?_erase r.overrides node.name other.name

theorem overridesFor_remove (r : NodeRegistry) (node other : Node) :
    (r.remove node).overridesFor other =
      if other.name = node.name then none else r.overridesFor other :=
  NameMap.find?_erase r.overrides node.name other.name

/-! ## Display -/

/-- The registry as one line. -/
def shown (r : NodeRegistry) : String :=
  "NodeRegistry(nodes=[" ++ ", ".intercalate r.nodes.names ++ "])"

end NodeRegistry

end ToolSites
