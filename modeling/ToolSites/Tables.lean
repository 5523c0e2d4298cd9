import ToolSites.Console.Table
import ToolSites.Environment
/-!
# Tables of installations and overrides

What the listing commands show of an environment.
-/

namespace ToolSites

open Console (Table)

namespace Environment

/-- The installations with their default homes and, if a node is given, with their
homes on it. -/
def installationsTable (env : Environment) (node : Option Node) : Table :=
  let row (e : String × Installation) : List String :=
    [e.1, e.2.type.displayName, e.2.home]
  match node with
  | none =>
    { title := "Installations"
      columns := ["Key", "Type", "Default Home"]
      rows := env.installations.entries.map row }
  | some node =>
    { title := "Installations on " ++ node.name
      columns := ["Key", "Type", "Default Home", "Effective Home"]
      rows := env.installations.entries.map fun e =>
        row e ++ [resolveHome env.nodes env.types node e.2] }

/-- What making the table tells: how the home of each installation was resolved. -/
def installationsTableEvents (env : Environment) : Option Node → List Event
  | none => []
  | some node =>
    env.installations.values.flatMap fun i => resolveHomeEvents env.nodes env.types node i

end Environment

/-- The cells of one entry. -/
def OverrideSet.Row.cells (row : OverrideSet.Row) : List String :=
  match row.type with
  | .ok displayName =>
    [row.key, row.home, if displayName = "" then "-" else displayName, "ok"]
  | .error _ => [row.key, row.home, "-", "stale"]

/-- The entries of a node. -/
def overridesTable (node : String) (rows : List OverrideSet.Row) : Table :=
  { title := "Tool Locations on " ++ node
    columns := ["Key", "Home", "Type", "Status"]
    rows := rows.map OverrideSet.Row.cells }

end ToolSites
