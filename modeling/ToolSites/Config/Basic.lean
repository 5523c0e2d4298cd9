import ToolSites.NameMap
import ToolSites.Node
import ToolSites.Path
/-!
# Configurations

What a controller is told: the tool types, the installations with their default
homes, the nodes with the locations that are theirs, and where edited locations
are stored.
-/

namespace ToolSites

/-- A configured installation. -/
structure InstallationSpec where
  typeId : String
  name : String
  home : String
  deriving DecidableEq, Repr

/-- A configured node. -/
structure NodeSpec where
  kind : NodeKind
  labels : List String
  /-- The keys and homes of its locations. -/
  locations : List (String × String)
  deriving DecidableEq, Repr

/-- A configuration. -/
structure Config where
  /-- Where edited locations are stored, as written. -/
  store : Option Path
  /-- The display names of the tool types, by identifier; they may be empty. -/
  toolTypes : NameMap String
  installations : List InstallationSpec
  nodes : NameMap NodeSpec
  deriving DecidableEq

/-- Where edited locations are stored, as seen from the directory `base`. -/
def Config.storeFrom (config : Config) (base : Path) : Option Path := config.store.map base.join

end ToolSites
