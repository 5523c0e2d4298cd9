import ToolSites.Error
/-!
# Tool types

A tool type is a class of tools that can be installed, such as a compiler. Types
declared here have an identifier that fits into keys, and a display name. Types
that another system describes come as they are; they are never equal to declared
ones.
-/

namespace ToolSites

/-- A declared tool type. -/
@[ext]
structure Descriptor where
  identifier : String
  displayName : String
  nonempty : identifier ≠ ""
  separator_free : '@' ∉ identifier.toList

/-- Two declared types are equal exactly when both of their names are. -/
instance : DecidableEq Descriptor := fun a b =>
  decidable_of_iff (a.identifier = b.identifier ∧ a.displayName = b.displayName)
    Descriptor.ext_iff.symm

/-- Declares a tool type. Without a display name its identifier is shown. -/
def Descriptor.declare (identifier displayName : String) : Except Error Descriptor :=
  if h : identifier = "" then .error .emptyTypeId
  else if h' : '@' ∈ identifier.toList then .error (.separatorInTypeId identifier)
  else
    .ok {
      identifier
      displayName := if displayName = "" then identifier else displayName
      nonempty := h
      separator_free := h' }

/-- A tool type, declared or described elsewhere. -/
inductive ToolType
  | declared (descriptor : Descriptor)
  | foreign (identifier displayName : String)
  deriving DecidableEq

namespace ToolType

/-- The identifier of the type. -/
def identifier : ToolType → String
  | .declared descriptor => descriptor.identifier
  | .foreign identifier _ => identifier

/-- The name that lists show. -/
def displayName : ToolType → String
  | .declared descriptor => descriptor.displayName
  | .foreign _ displayName => displayName

end ToolType

end ToolSites
