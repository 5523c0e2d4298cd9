import ToolSites.Tool.Key
import ToolSites.Tool.Type
/-!
# Installations

An installation is a tool of some type under a name, with the home directory that
it has wherever no node says otherwise.
-/

namespace ToolSites

/-- The key with these halves. -/
def Key.of (typeId name : String) : Except Error Key :=
  match of? typeId name with
  | some key => .ok key
  | none => .error (.separatorInTypeId typeId)

/-- A named installation of a tool type. -/
structure Installation where
  name : String
  type : ToolType
  /-- The home directory on nodes without a location of their own. -/
  home : String
  deriving DecidableEq

namespace Installation

/-- The text that names the installation. -/
def keyText (i : Installation) : String := Key.textOf i.type.identifier i.name

/-- The key of the installation. -/
def key (i : Installation) : Except Error Key := Key.of i.type.identifier i.name

/-- The installation with another home. -/
def withHome (i : Installation) (home : String) : Installation := { i with home }

end Installation

end ToolSites
