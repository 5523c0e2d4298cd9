import ToolSites.Error
/-!
# Events

What operations have to tell besides their results. A log shows each event with
its level and with the part of the program that it comes from.
-/

namespace ToolSites

/-- Something that happened on the way to a result. -/
inductive Event
  | typeRegistered (typeId : String)
  | typeUnregistered (typeId : String)
  /-- An entry was passed over in a search. -/
  | entrySkipped (key : String) (reason : Error)
  /-- An entry kept its unresolved form. -/
  | entryUnresolved (key : String)
  | overrideUsed (node key home : String)
  | setPublished (size : Nat) (node : String)
  | storeLoaded (nodes : Nat) (path : Path)
  | storeSaved (nodes : Nat) (path : Path)
  | setIgnored (node : String)

namespace Event

/-- How much an event matters. -/
inductive Level
  | debug
  | warning
  deriving DecidableEq, Repr

/-- The level in words. -/
def Level.text : Level → String
  | .debug => "DEBUG"
  | .warning => "WARNING"

/-- How much the event matters. -/
def level : Event → Level
  | .setIgnored _ => .warning
  | _ => .debug

/-- The part of the program that tells of the event. -/
def source : Event → String
  | .typeRegistered _ | .typeUnregistered _ => "toolhome.registry"
  | .entrySkipped .. | .entryUnresolved _ | .overrideUsed .. => "toolhome.overrides"
  | .setPublished .. => "toolhome.nodes"
  | .storeLoaded .. | .storeSaved .. => "toolhome.store"
  | .setIgnored _ => "toolhome.environment"

/-- The event in words. -/
def message : Event → String
  | .typeRegistered typeId => "Registered tool type " ++ typeId
  | .typeUnregistered typeId => "Unregistered tool type " ++ typeId
  | .entrySkipped key reason => "Skipping tool location " ++ key ++ ": " ++ reason.message
  | .entryUnresolved key => "Tool location " ++ key ++ " references an unknown type"
  | .overrideUsed node key home => "Using " ++ node ++ " override for " ++ key ++ ": " ++ home
  | .setPublished size node =>
    "Published " ++ toString size ++ " tool location(s) for " ++ node
  | .storeLoaded nodes path =>
    "Loaded tool locations for " ++ toString nodes ++ " node(s) from " ++ path.text
  | .storeSaved nodes path =>
    "Saved tool locations for " ++ toString nodes ++ " node(s) to " ++ path.text
  | .setIgnored node =>
    "Ignoring tool locations for node " ++ node ++ " that cannot carry overrides"

end Event

end ToolSites
