import ToolSites.Event
import ToolSites.NameMap
import ToolSites.Tool.Type
/-!
# The registry of tool types

The types that are known, by identifier, in the order of their first
registration. Replacing a type keeps its place; a type that was unregistered
and comes back goes last.
-/

namespace ToolSites

/-- The known tool types. -/
structure TypeRegistry where
  types : NameMap ToolType
  /-- Each type stands under its own identifier. -/
  named : ∀ {identifier type}, types.find? identifier = some type → type.identifier = identifier

namespace TypeRegistry

/-- No types. -/
def empty : TypeRegistry := ⟨.empty, by simp [NameMap.empty, NameMap.find?, Entries.find?]⟩

instance : Inhabited TypeRegistry := ⟨empty⟩

/-- The type with the identifier, if it is known. -/
def find? (r : TypeRegistry) (identifier : String) : Option ToolType := r.types.find? identifier

/-- The type with the identifier. -/
def get (r : TypeRegistry) (identifier : String) : Except Error ToolType :=
  match r.find? identifier with
  | some type => .ok type
  | none => .error (.unknownType identifier)

/-- Whether the identifier is known. -/
def contains (r : TypeRegistry) (identifier : String) : Bool := r.types.contains identifier

/-- All types, in order. -/
def all (r : TypeRegistry) : List ToolType := r.types.values

/-- How many types are known. -/
def size (r : TypeRegistry) : Nat := r.types.size

/-- Puts a type in place of the one with its identifier, or last. -/
def insert (r : TypeRegistry) (type : ToolType) : TypeRegistry where
  types := r.types.insert type.identifier type
  named := by
    intro identifier t h
    rw [NameMap.find?_insert] at h
    split at h
    · next he => simp only [Option.some.injEq] at h; rw [← h, he]
    · exact r.named h

/-- Registers a type; one that is known already only to `replace` it. -/
def register (r : TypeRegistry) (type : ToolType) (replace : Bool) : Except Error TypeRegistry :=
  if !replace && r.contains type.identifier then .error (.typeRegistered type.identifier)
  else .ok (r.insert type)

/-- Forgets the type with the identifier. -/
def unregister (r : TypeRegistry) (identifier : String) : TypeRegistry where
  types := r.types.erase identifier
  named h := r.named (NameMap.find?_of_erase h)

/-- Registers one type after the other. -/
def ofList (types : List ToolType) : Except Error TypeRegistry :=
  types.foldlM (fun r type => r.register type false) empty

theorem get_eq_ok {r : TypeRegistry} {identifier : String} {type : ToolType} :
    r.get identifier = .ok type ↔ r.find? identifier = some type := by
  unfold get
  cases r.find? identifier <;> simp

theorem find?_insert (r : TypeRegistry) (type : ToolType) (identifier : String) :
    (r.insert type).find? identifier =
      if identifier = type.identifier then some type else r.find? identifier :=
  NameMap.find?_insert r.types type.identifier type identifier

theorem find?_unregister (r : TypeRegistry) (identifier other : String) :
    (r.unregister identifier).find? other =
      if other = identifier then none else r.find? other :=
  NameMap.find?_erase r.types identifier other

/-! ## Events -/

/-- What unregistering tells: nothing if the type was not known. -/
def unregisterEvents (r : TypeRegistry) (identifier : String) : List Event :=
  if r.contains identifier then [.typeUnregistered identifier] else []

/-- What registering one type after the other tells, up to the first that is known
already. -/
def ofListEvents (types : List ToolType) : List Event :=
  go [] types
where
  /-- The same, where the types in `known` are registered already. -/
  go (known : List String) : List ToolType → List Event
    | [] => []
    | type :: rest =>
      if known.contains type.identifier then []
      else .typeRegistered type.identifier :: go (type.identifier :: known) rest

/-! ## Display -/

/-- The registry as one line, with the identifiers in ascending order. -/
def shown (r : TypeRegistry) : String :=
  "ToolTypeRegistry(types=[" ++
    ", ".intercalate (r.types.names.mergeSort fun a b => decide (a ≤ b)) ++ "])"

end TypeRegistry

end ToolSites
