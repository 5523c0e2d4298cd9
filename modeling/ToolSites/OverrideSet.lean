import ToolSites.Location
/-!
# Sets of overrides

The locations of one node, in the order in which they were configured. The first
that is for an installation decides. Entries may repeat a key, and entries whose
type is not known do no harm: they are passed over and keep their place.
-/

namespace ToolSites

/-- The locations of one node, in order. -/
structure OverrideSet where
  locations : List Location
  deriving DecidableEq, Inhabited

namespace OverrideSet

/-- The set with these locations, which must be given. -/
def ofLocations? : Option (List Location) → Except Error OverrideSet
  | some locations => .ok ⟨locations⟩
  | none => .error .noLocations

/-- The set with these keys and homes. -/
def ofPairs (pairs : List (String × String)) : Except KeyFault OverrideSet :=
  (pairs.mapM fun (key, home) => Location.ofKey key home).map OverrideSet.mk

/-- The keys and homes, in order. -/
def pairs (s : OverrideSet) : List (String × String) :=
  s.locations.map fun l => (l.key.text, l.home)

/-- The keys, in order. -/
def keys (s : OverrideSet) : List String := s.locations.map fun l => l.key.text

/-- How many entries there are. -/
def size (s : OverrideSet) : Nat := s.locations.length

/-- Two sets are the same configuration if their keys and homes are the same. -/
def sameAs (s t : OverrideSet) : Bool := s.pairs == t.pairs

/-! ## Lookup -/

/-- The home of the first entry for the installation. -/
def homeFor (s : OverrideSet) (i : Installation) (types : TypeRegistry) : Option String :=
  (s.locations.find? fun l => l.appliesTo i types).map Location.home

/-- What the lookup tells: the entries before the first match whose type is not
known. -/
def homeForEvents (s : OverrideSet) (i : Installation) (types : TypeRegistry) : List Event :=
  (s.locations.takeWhile fun l => !l.appliesTo i types).filterMap fun l =>
    match l.compare i types with
    | .ok _ => none
    | .error reason => some (.entrySkipped l.key.text reason)

/-! ## Types -/

/-- The set whose entries carry their types where the registry knows them. -/
def resolved (s : OverrideSet) (types : TypeRegistry) : OverrideSet :=
  ⟨s.locations.map fun l =>
    match l.resolve types with
    | .ok resolved => resolved
    | .error _ => l⟩

/-- What resolving tells: the entries that stay unresolved. -/
def resolvedEvents (s : OverrideSet) (types : TypeRegistry) : List Event :=
  s.locations.filterMap fun l =>
    match l.resolve types with
    | .ok _ => none
    | .error _ => some (.entryUnresolved l.key.text)

/-- The entries whose type is not known, whether they carry one or not. -/
def stale (s : OverrideSet) (types : TypeRegistry) : List Location :=
  s.locations.filter fun l => l.isStale types

/-- The keys of the entries whose type is not known. -/
def staleKeys (s : OverrideSet) (types : TypeRegistry) : List String :=
  (s.stale types).map fun l => l.key.text

/-! ## Editing -/

/-- Puts a location in place of the first with its key, or last. -/
def insert (s : OverrideSet) (location : Location) : OverrideSet :=
  ⟨go s.locations⟩
where
  /-- The same on the entries. -/
  go : List Location → List Location
    | [] => [location]
    | l :: rest => if l.key.text = location.key.text then location :: rest else l :: go rest

/-- The set without the entries of the key. -/
def erase (s : OverrideSet) (key : String) : OverrideSet :=
  ⟨s.locations.filter fun l => l.key.text != key⟩

/-! ## Laws -/

/-- Resolving changes no key and no home. -/
theorem pairs_resolved (s : OverrideSet) (types : TypeRegistry) :
    (s.resolved types).pairs = s.pairs := by
  simp only [pairs, resolved, List.map_map]
  apply List.map_congr_left
  intro l _
  simp only [Function.comp]
  split
  · next hr => rw [Location.key_resolve hr, Location.home_resolve hr]
  · rfl

/-- A set keeps the keys and homes that it was made of. -/
theorem pairs_ofPairs {pairs : List (String × String)} {s : OverrideSet}
    (h : ofPairs pairs = .ok s) : s.pairs = pairs := by
  unfold ofPairs at h
  cases hm : pairs.mapM fun pair : String × String => Location.ofKey pair.1 pair.2 with
  | error e => rw [hm] at h; cases h
  | ok locations =>
    rw [hm] at h
    cases h
    induction pairs generalizing locations with
    | nil => cases hm; rfl
    | cons pair rest ih =>
      rw [List.mapM_cons] at hm
      cases hl : Location.ofKey pair.1 pair.2 with
      | error e => rw [hl] at hm; cases hm
      | ok l =>
        cases hr : rest.mapM fun pair : String × String => Location.ofKey pair.1 pair.2 with
        | error e => rw [hl, hr] at hm; cases hm
        | ok more =>
          rw [hl, hr] at hm
          cases hm
          have hkey := Location.key_ofKey hl
          have := ih more hr
          simp only [OverrideSet.pairs, List.map_cons] at this ⊢
          rw [this, hkey.1, hkey.2]

/-! ## Display -/

/-- One entry as lists show it. -/
structure Row where
  key : String
  home : String
  /-- The display name of the type, or why there is none. -/
  type : Except Error String

/-- Whether the type of the entry is not known. -/
def Row.isStale (row : Row) : Bool :=
  match row.type with
  | .ok _ => false
  | .error _ => true

/-- The entries as lists show them. -/
def rows (s : OverrideSet) (types : TypeRegistry) : List Row :=
  s.locations.map fun l => ⟨l.key.text, l.home, (l.type types).map ToolType.displayName⟩

/-- The set as one line. -/
def shown (s : OverrideSet) : String :=
  "NodeToolOverrides(locations=[" ++ ", ".intercalate s.keys ++ "])"

end OverrideSet

end ToolSites
