import ToolSites.OverrideSet
import ToolSites.Proofs.Tool.Key
/-!
# What a set of overrides depends on

The keys and homes of a set, in their order, decide everything that is asked of it:
`unresolved_congr` says so once, and lookups and lists follow. For an installation
whose type is registered, `homeFor_eq_find?` reads the home off the pairs, where
editing a set is editing a list of named values.
-/

namespace ToolSites

namespace Location

theorem appliesTo_congr {l m : Location} (h : l.key = m.key) (i : Installation)
    (types : TypeRegistry) : l.appliesTo i types = m.appliesTo i types := by
  unfold appliesTo compare type name typeId
  rw [h]

theorem compare_eq_true {l : Location} {i : Installation} {types : TypeRegistry} :
    l.compare i types = .ok true ↔ l.appliesTo i types = true := by
  unfold appliesTo
  cases l.compare i types <;> simp

/-- A location is for an installation when its name is that of the installation and the
registry knows the installation's type under its identifier. -/
theorem appliesTo_eq_true {l : Location} {i : Installation} {types : TypeRegistry} :
    l.appliesTo i types = true ↔ l.name = i.name ∧ types.find? l.typeId = some i.type := by
  unfold appliesTo compare type TypeRegistry.get
  by_cases hname : l.name = i.name
  · cases types.find? l.typeId <;> simp [hname, Except.map]
  · simp [hname]

/-- A location is for an installation of a registered type exactly when it has its key. -/
theorem appliesTo_iff {l : Location} {i : Installation} {types : TypeRegistry}
    (hr : types.find? i.type.identifier = some i.type) (hfree : '@' ∉ i.type.identifier.toList) :
    l.appliesTo i types = true ↔ l.key.text = i.keyText := by
  rw [appliesTo_eq_true]
  constructor
  · rintro ⟨hname, htype⟩
    -- the registry keeps each type under its own identifier
    have hid : i.type.identifier = l.typeId := types.named htype
    rw [Installation.keyText, ← hname, hid]
    rfl
  · intro h
    have hk : l.key = ⟨i.type.identifier, i.name, hfree⟩ := Key.text_injective h
    rw [name, typeId, hk]
    exact ⟨rfl, hr⟩

end Location

namespace OverrideSet

/-! ## Sets without types -/

/-- The set with the same keys and homes and no types. -/
def unresolved (s : OverrideSet) : OverrideSet := ⟨s.locations.map fun l => .unresolved l.key l.home⟩

theorem pairs_unresolved (s : OverrideSet) : s.unresolved.pairs = s.pairs := by
  simp [pairs, unresolved, Location.key, Location.home]

/-- The keys and homes of a set make the set again, without its types. -/
theorem ofPairs_pairs (s : OverrideSet) : ofPairs s.pairs = .ok s.unresolved := by
  have h : ∀ l ∈ s.locations, Location.ofKey l.key.text l.home = .ok (.unresolved l.key l.home) :=
    fun l _ => l.ofKey_key
  rw [ofPairs, pairs, List.mapM_map]
  exact congrArg (Except.map OverrideSet.mk) (mapM_eq_ok h)

/-- Sets with the same pairs differ at most in their types. -/
theorem unresolved_congr {s t : OverrideSet} (h : s.pairs = t.pairs) : s.unresolved = t.unresolved := by
  have hs := ofPairs_pairs s
  rw [h, ofPairs_pairs t] at hs
  injection hs with hs
  exact hs.symm

/-! ## Questions -/

theorem homeFor_unresolved (s : OverrideSet) (i : Installation) (types : TypeRegistry) :
    s.unresolved.homeFor i types = s.homeFor i types := by
  have happ : (fun l : Location => l.appliesTo i types) ∘
      (fun l : Location => Location.unresolved l.key l.home) =
      fun l : Location => l.appliesTo i types := by
    funext l
    exact Location.appliesTo_congr rfl i types
  rw [homeFor, unresolved, List.find?_map, happ, Option.map_map]
  rfl

theorem homeFor_congr {s t : OverrideSet} (h : s.pairs = t.pairs) (i : Installation)
    (types : TypeRegistry) : s.homeFor i types = t.homeFor i types := by
  rw [← homeFor_unresolved s, unresolved_congr h, homeFor_unresolved]

theorem rows_unresolved (s : OverrideSet) (types : TypeRegistry) :
    s.unresolved.rows types = s.rows types := by
  simp [rows, unresolved, Location.key, Location.home, Location.type, Location.typeId]

theorem rows_congr {s t : OverrideSet} (h : s.pairs = t.pairs) (types : TypeRegistry) :
    s.rows types = t.rows types := by
  rw [← rows_unresolved s, unresolved_congr h, rows_unresolved]

theorem stale_unresolved (s : OverrideSet) (types : TypeRegistry) :
    (⟨s.unresolved.stale types⟩ : OverrideSet) = (⟨s.stale types⟩ : OverrideSet).unresolved := by
  rw [unresolved, mk.injEq, stale, unresolved, List.filter_map]
  rfl

theorem stale_congr {s t : OverrideSet} (h : s.pairs = t.pairs) (types : TypeRegistry) :
    (⟨s.stale types⟩ : OverrideSet).pairs = (⟨t.stale types⟩ : OverrideSet).pairs := by
  rw [← pairs_unresolved, ← stale_unresolved, unresolved_congr h, stale_unresolved, pairs_unresolved]

/-- The home of an installation of a registered type is that of the first pair with its key. -/
theorem homeFor_eq_find? {i : Installation} {types : TypeRegistry}
    (hr : types.find? i.type.identifier = some i.type) (hfree : '@' ∉ i.type.identifier.toList)
    (s : OverrideSet) : s.homeFor i types = Entries.find? i.keyText s.pairs := by
  obtain ⟨locations⟩ := s
  induction locations with
  | nil => rfl
  | cons l rest ih =>
    simp only [homeFor, pairs, List.map_cons, Entries.find?] at ih ⊢
    by_cases h : l.key.text = i.keyText
    · rw [List.find?_cons, (Location.appliesTo_iff hr hfree).2 h, if_pos h]
      rfl
    · rw [List.find?_cons, Bool.eq_false_iff.2 (mt (Location.appliesTo_iff hr hfree).1 h), if_neg h, ← ih]

/-! ## Editing -/

theorem pairs_insert (s : OverrideSet) (l : Location) :
    (s.insert l).pairs = Entries.put l.key.text l.home s.pairs := by
  obtain ⟨locations⟩ := s
  induction locations with
  | nil => rfl
  | cons m rest ih =>
    simp only [pairs, insert, insert.go, List.map_cons, Entries.put] at ih ⊢
    split
    · next h => rw [List.map_cons, h]
    · rw [List.map_cons, ih]

theorem pairs_erase (s : OverrideSet) (key : String) :
    (s.erase key).pairs = s.pairs.filter fun pair => pair.1 != key := by
  simp only [pairs, erase, List.filter_map, Function.comp_def]

theorem keys_eq_names (s : OverrideSet) : s.keys = Entries.names s.pairs := by
  simp [keys, pairs, Entries.names]

/-! ## Keys of unknown types -/

theorem staleKeys_congr {s t : OverrideSet} (h : s.pairs = t.pairs) (types : TypeRegistry) :
    s.staleKeys types = t.staleKeys types := by
  have hkeys : ∀ s : OverrideSet, s.staleKeys types = Entries.names (⟨s.stale types⟩ : OverrideSet).pairs :=
    fun s => keys_eq_names ⟨s.stale types⟩
  rw [hkeys, stale_congr h, hkeys]

/-- An entry has the key of one of an unknown type exactly when its own type is not known. -/
theorem contains_staleKeys {s : OverrideSet} {l : Location} (hl : l ∈ s.locations) (types : TypeRegistry) :
    (s.staleKeys types).contains l.key.text = l.isStale types := by
  rw [Bool.eq_iff_iff, List.contains_iff_mem, staleKeys, List.mem_map]
  constructor
  · rintro ⟨m, hm, hkey⟩
    have hstale := (List.mem_filter.1 hm).2
    rwa [Location.isStale, Location.typeId, Key.text_injective hkey] at hstale
  · intro hstale
    exact ⟨l, List.mem_filter.2 ⟨hl, hstale⟩, rfl⟩

end OverrideSet

end ToolSites
