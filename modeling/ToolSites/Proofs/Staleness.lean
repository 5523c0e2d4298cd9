import ToolSites.Proofs.OverrideSet
/-!
# Entries whose type is not known

Lists, the stale entries, resolving and lookups each ask the registry for the type of an entry in
their own way. They agree on the answer, because an entry has one identifier in either form
(`isStale_iff`): a row is marked exactly for a stale entry (`shows_entry`), resolving leaves an entry
without a type exactly then (`carried?_typed`), and lookups pass it over, so that they find the same
without such entries (`homeFor_withoutStale`). `staleness_agrees` puts this together.
-/

namespace ToolSites

namespace Location

variable {l : Location} {types : TypeRegistry}

theorem isStale_iff : l.isStale types = true ↔ types.find? l.typeId = none := by
  unfold isStale TypeRegistry.contains NameMap.contains
  rw [Bool.not_eq_true', Option.isSome_eq_false_iff, Option.isNone_iff_eq_none]
  rfl

/-- The type of a location is the one that the registry knows now, whatever the location carries. -/
theorem type_of_known {type : ToolType} (h : types.find? l.typeId = some type) : l.type types = .ok type := by
  rw [Location.type, TypeRegistry.get, h]

theorem type_of_unknown (h : types.find? l.typeId = none) : l.type types = .error (.unknownType l.typeId) := by
  rw [Location.type, TypeRegistry.get, h]

/-- A location of an unknown type is for no installation. -/
theorem not_appliesTo_of_unknown (h : types.find? l.typeId = none) (i : Installation) :
    l.appliesTo i types = false := by
  rw [Bool.eq_false_iff, ne_eq, appliesTo_eq_true, h]
  exact fun happ => nomatch happ.2

/-! ## Resolving -/

/-- The location as resolving a set leaves it. -/
def typed (l : Location) (types : TypeRegistry) : Location :=
  match l.resolve types with
  | .ok r => r
  | .error _ => l

theorem key_typed (l : Location) (types : TypeRegistry) : (l.typed types).key = l.key := by
  unfold typed
  split
  · next h => exact key_resolve h
  · rfl

theorem home_typed (l : Location) (types : TypeRegistry) : (l.typed types).home = l.home := by
  unfold typed
  split
  · next h => exact home_resolve h
  · rfl

/-- A location that carries a type stays as it is. -/
theorem typed_of_isResolved (h : l.isResolved = true) : l.typed types = l := by
  cases l with
  | resolved type name home free => rfl
  | unresolved key home => cases h

/-- It carries the type that it carried before, or else the one that the registry knows, if any. -/
theorem carried?_typed (l : Location) (types : TypeRegistry) :
    (l.typed types).carried? = l.carried?.or (types.find? l.typeId) := by
  cases l with
  | resolved type name home free => rfl
  | unresolved key home =>
    rw [typed, resolve]
    split
    · next r h =>
      split at h
      · cases h
      · next type hfind => cases h; exact hfind.symm
    · next e h =>
      split at h
      · next hfind => exact hfind.symm
      · cases h

end Location

namespace OverrideSet

variable {s : OverrideSet} {types : TypeRegistry} {l : Location} {row : Row}

theorem mem_stale : l ∈ s.stale types ↔ l ∈ s.locations ∧ types.find? l.typeId = none := by
  rw [stale, List.mem_filter, Location.isStale_iff]

/-! ## Lists -/

/-- The row shows the entry: its key and home, and the display name that the registry has for its type
now, or that the type is not known. -/
structure Shows (types : TypeRegistry) (l : Location) (row : Row) : Prop where
  key : row.key = l.key.text
  home : row.home = l.home
  known : ∀ type, types.find? l.typeId = some type → row.type = .ok type.displayName
  unknown : types.find? l.typeId = none → row.type = .error (.unknownType l.typeId)

theorem shows_entry (l : Location) (types : TypeRegistry) :
    Shows types l ⟨l.key.text, l.home, (l.type types).map ToolType.displayName⟩ where
  key := rfl
  home := rfl
  known type h := by rw [Location.type_of_known h]; rfl
  unknown h := by rw [Location.type_of_unknown h]; rfl

theorem Shows.isStale_iff (h : Shows types l row) : row.isStale = true ↔ types.find? l.typeId = none := by
  unfold Row.isStale
  cases hfind : types.find? l.typeId with
  | none => simp [h.unknown hfind]
  | some type => simp [h.known type hfind]

/-! ## Lookups -/

/-- The set without its stale entries. -/
def withoutStale (s : OverrideSet) (types : TypeRegistry) : OverrideSet :=
  ⟨s.locations.filter fun l => l ∉ s.stale types⟩

/-- No lookup needs the stale entries. -/
theorem homeFor_withoutStale (s : OverrideSet) (types : TypeRegistry) (i : Installation) :
    (s.withoutStale types).homeFor i types = s.homeFor i types := by
  have happ : (fun l : Location => decide (decide (l ∉ s.stale types) = true ∧ l.appliesTo i types = true)) =
      fun l => l.appliesTo i types := by
    funext l
    by_cases hl : l ∈ s.stale types
    · simp [Location.not_appliesTo_of_unknown (mem_stale.1 hl).2]
    · simp [hl]
  rw [homeFor, withoutStale, List.find?_filter, happ, homeFor]

/-! ## All views -/

/-- All views agree on which entries are stale. The list has one row for each entry, in order, with its
key and its home. A row is marked exactly if the entry is one of the stale ones, and these are, in
order, the entries whose identifier is not registered; such a row names the identifier, and any other
row shows the display name of the type as it is registered now. Resolving keeps keys, homes and the
entries that carry a type; an entry that carries none carries the registered one afterwards, and none
exactly if it is stale. And without the stale entries the set gives every installation the same home. -/
theorem staleness_agrees (s : OverrideSet) (types : TypeRegistry) :
    List.Forall₂ (fun l row => row.key = l.key.text ∧ row.home = l.home ∧
        (row.isStale = true ↔ l ∈ s.stale types) ∧
        (l ∈ s.stale types ↔ types.find? l.typeId = none) ∧
        (row.isStale = true → ∃ e, row.type = .error e ∧
          e.message = "unknown tool type " ++ Text.quoted l.typeId) ∧
        (row.isStale = false → ∃ type, types.find? l.typeId = some type ∧ row.type = .ok type.displayName))
      s.locations (s.rows types) ∧
    s.stale types = s.locations.filter (fun l => (types.find? l.typeId).isNone) ∧
    List.Forall₂ (fun l r => r.key = l.key ∧ r.home = l.home ∧
        (l.isResolved = true → r = l) ∧
        (l.isResolved = false → r.carried? = types.find? l.typeId ∧
          (r.isResolved = false ↔ l ∈ s.stale types)))
      s.locations (s.resolved types).locations ∧
    ∀ i : Installation, (s.withoutStale types).homeFor i types = s.homeFor i types := by
  have hstale : ∀ l ∈ s.locations, (l ∈ s.stale types ↔ types.find? l.typeId = none) := fun l hl =>
    mem_stale.trans (and_iff_right hl)
  refine ⟨?_, ?_, ?_, s.homeFor_withoutStale types⟩
  · refine List.forall₂_map_right_iff.2 (List.forall₂_same.2 fun l hl => ?_)
    have hrow := shows_entry l types
    refine ⟨rfl, rfl, hrow.isStale_iff.trans (hstale l hl).symm, hstale l hl, fun h => ?_, fun h => ?_⟩
    · exact ⟨_, hrow.unknown (hrow.isStale_iff.1 h), rfl⟩
    · have hknown : types.find? l.typeId ≠ none := by
        rw [ne_eq, ← hrow.isStale_iff, h]
        exact Bool.false_ne_true
      obtain ⟨type, hfind⟩ := Option.ne_none_iff_exists'.1 hknown
      exact ⟨type, hfind, hrow.known type hfind⟩
  · refine List.filter_congr fun l _ => ?_
    rw [Bool.eq_iff_iff, Location.isStale_iff, Option.isNone_iff_eq_none]
  · refine List.forall₂_map_right_iff.2 (List.forall₂_same.2 fun l hl => ?_)
    have hcarried := l.carried?_typed types
    refine ⟨l.key_typed types, l.home_typed types, fun h => ?_, fun h => ?_⟩
    · exact Location.typed_of_isResolved h
    · rw [Option.isNone_iff_eq_none.1 (Option.isSome_eq_false_iff.1 h), Option.none_or] at hcarried
      refine ⟨hcarried, ?_⟩
      rw [hstale l hl, ← hcarried, ← Option.isNone_iff_eq_none, ← Option.isSome_eq_false_iff]
      rfl

end OverrideSet

end ToolSites
