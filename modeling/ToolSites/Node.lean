/-!
# Nodes

A node is a machine on which work runs. The controller hands the work out and
runs none itself, so only agents can have tool locations of their own.
-/

namespace ToolSites

/-- What a node does. -/
inductive NodeKind
  | controller
  | agent
  deriving DecidableEq, Repr

namespace NodeKind

/-- The word for the kind. -/
def text : NodeKind → String
  | .controller => "controller"
  | .agent => "agent"

/-- The kind that a word names. -/
def ofText? (s : String) : Option NodeKind :=
  if s = "controller" then some .controller
  else if s = "agent" then some .agent
  else none

/-- Whether nodes of the kind may have tool locations of their own. -/
def carriesOverrides (kind : NodeKind) : Bool := kind != .controller

theorem ofText?_text (kind : NodeKind) : ofText? kind.text = some kind := by
  cases kind <;> simp [ofText?, text]

end NodeKind

/-- A machine on which work runs. -/
structure Node where
  name : String
  kind : NodeKind
  labels : List String
  deriving DecidableEq, Repr

end ToolSites
