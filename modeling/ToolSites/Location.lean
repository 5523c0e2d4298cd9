import ToolSites.Tool.Installation
import ToolSites.Tool.Registry
/-!
# Tool locations

A location says where the tool of one key has its home on a node. A location
that was read from a document knows the type of the tool by its identifier
alone; a location that was resolved carries the type. In either form it is the
registry that says, each time anew, what the identifier stands for.
-/

namespace ToolSites

/-- The home of a tool on a node. -/
inductive Location
  | unresolved (key : Key) (home : String)
  /-- A location that carries its type. The identifier of the type fits into keys. -/
  | resolved (type : ToolType) (name home : String)
      (separator_free : '@' ∉ type.identifier.toList)
  deriving DecidableEq

namespace Location

/-! ## Parts -/

/-- The key of the tool. -/
def key : Location → Key
  | .unresolved key _ => key
  | .resolved type name _ separator_free => ⟨type.identifier, name, separator_free⟩

/-- The home of the tool. -/
def home : Location → String
  | .unresolved _ home => home
  | .resolved _ _ home _ => home

/-- The name of the installation within its type. -/
def name (l : Location) : String := l.key.name

/-- The identifier of the type. -/
def typeId (l : Location) : String := l.key.typeId

/-- The type that the location carries. -/
def carried? : Location → Option ToolType
  | .unresolved .. => none
  | .resolved type .. => some type

/-- Whether the location carries its type. -/
def isResolved (l : Location) : Bool := l.carried?.isSome

/-! ## Making locations -/

/-- The location for the key that the text writes. -/
def ofKey (key home : String) : Except KeyFault Location :=
  (Key.parse key).map fun key => .unresolved key home

/-- The location for an installation of a type at hand. -/
def ofType (type : ToolType) (name home : String) : Except Error Location :=
  if h : '@' ∈ type.identifier.toList then .error (.separatorInTypeId type.identifier)
  else .ok (.resolved type name home h)

/-! ## Types -/

/-- The type that the registry knows under the identifier of the location. -/
def type (l : Location) (types : TypeRegistry) : Except Error ToolType := types.get l.typeId

/-- Whether the registry does not know the type. -/
def isStale (l : Location) (types : TypeRegistry) : Bool := !types.contains l.typeId

/-- The location with the type that the registry knows. A location that carries a
type stays as it is. -/
def resolve (l : Location) (types : TypeRegistry) : Except Error Location :=
  match l with
  | .resolved .. => .ok l
  | .unresolved key home =>
    match h : types.find? key.typeId with
    | none => .error (.unknownType key.typeId)
    | some type =>
      .ok (.resolved type key.name home (types.named h ▸ key.separator_free))

/-! ## Matching -/

/-- Whether the location is for the installation: the names agree, and so do the
installation's type and the one that the registry knows. The registry is asked
only if the names agree. -/
def compare (l : Location) (i : Installation) (types : TypeRegistry) : Except Error Bool :=
  if l.name = i.name then (l.type types).map fun type => decide (type = i.type) else .ok false

/-- Whether the location is for the installation; one whose type is not known is
for none. -/
def appliesTo (l : Location) (i : Installation) (types : TypeRegistry) : Bool :=
  match l.compare i types with
  | .ok agrees => agrees
  | .error _ => false

/-! ## Laws -/

theorem key_ofKey {key home : String} {l : Location} (h : ofKey key home = .ok l) :
    l.key.text = key ∧ l.home = home := by
  unfold ofKey at h
  cases hk : Key.parse key with
  | error e => rw [hk] at h; cases h
  | ok k =>
    rw [hk] at h
    cases h
    exact ⟨Key.text_of_parse hk, rfl⟩

theorem key_resolve {l r : Location} {types : TypeRegistry} (h : l.resolve types = .ok r) :
    r.key = l.key := by
  cases l with
  | resolved type name home free => cases h; rfl
  | unresolved key home =>
    simp only [resolve] at h
    split at h
    · cases h
    · next type ht =>
      cases h
      obtain ⟨typeId, name, free⟩ := key
      simp only [Location.key, Key.mk.injEq, and_true]
      exact types.named ht

theorem home_resolve {l r : Location} {types : TypeRegistry} (h : l.resolve types = .ok r) :
    r.home = l.home := by
  cases l with
  | resolved type name home free => cases h; rfl
  | unresolved key home =>
    simp only [resolve] at h
    split at h
    · cases h
    · cases h; rfl

end Location

end ToolSites
