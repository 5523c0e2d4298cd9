import ToolSites.Environment
/-!
# Problems of an environment

What a careful reader of the configuration would want to know: entries whose
type is not known, entries for which there is no installation, and sets that no
node carries.
-/

namespace ToolSites

/-- A doubtful tool location. -/
inductive LocationProblem
  | unknownType (node key typeId : String)
  | noInstallation (node key : String)
  | notCarried (node : String)
  deriving DecidableEq, Repr

/-- The problem in words. -/
def LocationProblem.message : LocationProblem → String
  | .unknownType node key typeId =>
    node ++ ": " ++ key ++ " references unknown tool type " ++ Text.quoted typeId
  | .noInstallation node key => node ++ ": " ++ key ++ " does not match any installation"
  | .notCarried node => node ++ ": node is not declared or cannot carry tool locations"

namespace Environment

/-- What is doubtful about an entry of a node, where `stale` are the keys whose type is
not known. -/
def entryProblem? (env : Environment) (node : String) (stale : List String) (l : Location) :
    Option LocationProblem :=
  if stale.contains l.key.text then some (.unknownType node l.key.text l.typeId)
  else if !env.installations.contains l.key.text then some (.noInstallation node l.key.text)
  else none

/-- What is doubtful about the entries of a node. -/
def nodeProblems (env : Environment) (node : Node) : List LocationProblem :=
  match env.nodes.overridesFor node with
  | none => []
  | some set =>
    set.locations.filterMap (env.entryProblem? node.name (set.staleKeys env.types))

/-- All problems: node by node, entry by entry, and then the orphans. -/
def problems (env : Environment) : List LocationProblem :=
  env.nodes.all.flatMap env.nodeProblems ++ env.orphaned.names.map .notCarried

end Environment

end ToolSites
