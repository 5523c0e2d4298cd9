import ToolSites.NodeRegistry
/-!
# Resolution

Where an installation has its home on a node: where the node's own set says, and
at its default home if the set says nothing or there is none.
-/

namespace ToolSites

/-- The home that the node's own set gives to the installation. -/
def overriddenHome (nodes : NodeRegistry) (types : TypeRegistry) (node : Node)
    (i : Installation) : Option String :=
  (nodes.overridesFor node).bind fun set => set.homeFor i types

/-- The home of the installation on the node. -/
def resolveHome (nodes : NodeRegistry) (types : TypeRegistry) (node : Node)
    (i : Installation) : String :=
  (overriddenHome nodes types node i).getD i.home

/-- What resolving tells: the entries that were passed over, and the home if it is
not the default. -/
def resolveHomeEvents (nodes : NodeRegistry) (types : TypeRegistry) (node : Node)
    (i : Installation) : List Event :=
  match nodes.overridesFor node with
  | none => []
  | some set =>
    set.homeForEvents i types ++
      ((set.homeFor i types).map (Event.overrideUsed node.name i.keyText)).toList

/-- The installation as it is on the node. -/
def Installation.onNode (i : Installation) (nodes : NodeRegistry) (types : TypeRegistry)
    (node : Node) : Installation :=
  i.withHome (resolveHome nodes types node i)

end ToolSites
