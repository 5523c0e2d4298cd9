import ToolSites.Proofs.Store.RoundTrip
/-!
# Sets that are the same

Two sets are the same configuration when they have the same keys and homes in the same
order, whether or not their entries carry types, and whichever types these are. That is all
that can be found out about a set: sets that are the same are `Interchangeable`, and only
those are (`sameAs_iff_interchangeable`). A set that was resolved is the same as before, so
that it makes no difference when sets are resolved or what the registry knew then.
-/

namespace ToolSites

namespace OverrideSet

variable {s t : OverrideSet}

/-- No question tells the sets apart, whatever the registry knows when it is asked, and no
store does that has them under the same name. -/
structure Interchangeable (s t : OverrideSet) : Prop where
  homeFor : ∀ (i : Installation) (types : TypeRegistry), s.homeFor i types = t.homeFor i types
  rows : ∀ types : TypeRegistry, s.rows types = t.rows types
  stale : ∀ types : TypeRegistry,
    (⟨s.stale types⟩ : OverrideSet).pairs = (⟨t.stale types⟩ : OverrideSet).pairs
  text : ∀ (sets : NodeSets) (name : String),
    Store.text (sets.insert name s) = Store.text (sets.insert name t)
  save : ∀ (files : FileTree) (path : Path) (sets : NodeSets) (name : String),
    Store.save files path (sets.insert name s) = Store.save files path (sets.insert name t)

theorem sameAs_iff : s.sameAs t = true ↔ s.pairs = t.pairs := by
  rw [sameAs, beq_iff_eq]

/-! ## Stores -/

theorem text_insert_congr (h : s.pairs = t.pairs) (sets : NodeSets) (name : String) :
    Store.text (sets.insert name s) = Store.text (sets.insert name t) := by
  apply Store.text_congr
  rw [NameMap.map_insert, NameMap.map_insert, h]

theorem save_insert_congr (h : s.pairs = t.pairs) (files : FileTree) (path : Path) (sets : NodeSets)
    (name : String) :
    Store.save files path (sets.insert name s) = Store.save files path (sets.insert name t) := by
  rw [Store.save, text_insert_congr h, Store.save]

/-! ## Lists -/

/-- The list of a set shows its keys and homes. -/
theorem pairs_rows (s : OverrideSet) (types : TypeRegistry) :
    (s.rows types).map (fun row => (row.key, row.home)) = s.pairs := by
  rw [rows, List.map_map, pairs]
  rfl

/-! ## Interchange -/

theorem interchangeable_of_pairs (h : s.pairs = t.pairs) : Interchangeable s t where
  homeFor := homeFor_congr h
  rows := rows_congr h
  stale := stale_congr h
  text := text_insert_congr h
  save := save_insert_congr h

theorem Interchangeable.pairs (h : Interchangeable s t) : s.pairs = t.pairs := by
  rw [← pairs_rows s .empty, h.rows, pairs_rows]

theorem size_resolved (s : OverrideSet) (types : TypeRegistry) : (s.resolved types).size = s.size := by
  rw [size, resolved, List.length_map, size]

/-- Sets with the same keys and homes in the same order are interchangeable, and no others are.
A set that was resolved is the same as before, with as many entries. So if two sets are the
same, it is not to be seen in any answer whether they were resolved, nor which types the
registry knew when they were. -/
theorem sameAs_iff_interchangeable (s t : OverrideSet) :
    (s.sameAs t = true ↔ Interchangeable s t) ∧
      (∀ earlier : TypeRegistry, (s.resolved earlier).sameAs s = true ∧
        (s.resolved earlier).size = s.size ∧ Interchangeable (s.resolved earlier) s) ∧
      ∀ earlier later : TypeRegistry, s.sameAs t = true →
        Interchangeable (s.resolved earlier) (t.resolved later) := by
  refine ⟨?_, fun earlier => ?_, fun earlier later h => ?_⟩
  · rw [sameAs_iff]
    exact ⟨interchangeable_of_pairs, Interchangeable.pairs⟩
  · have hpairs := s.pairs_resolved earlier
    exact ⟨sameAs_iff.2 hpairs, s.size_resolved earlier, interchangeable_of_pairs hpairs⟩
  · apply interchangeable_of_pairs
    rw [pairs_resolved, pairs_resolved, sameAs_iff.1 h]

/-- The set was resolved when `T` was shown as `old`. Its entry is for an installation of the
type as it is registered by now, and for none once the type is unregistered, just as in the
set that never was resolved. -/
theorem sameAs_iff_interchangeable_outdated :
    let type (shown : String) : ToolType := .declared ⟨"T", shown, by decide, by decide⟩
    let i : Installation := ⟨"a", type "new", "d"⟩
    let now : TypeRegistry := TypeRegistry.empty.insert (type "new")
    let s : OverrideSet := ⟨[.unresolved ⟨"U", "a", by decide⟩ "g", .unresolved ⟨"T", "a", by decide⟩ "h"]⟩
    let t : OverrideSet := s.resolved (TypeRegistry.empty.insert (type "old"))
    t ≠ s ∧ t.homeFor i now = some "h" ∧ t.homeFor i (now.unregister "T") = none := by
  intro type i now s t
  obtain ⟨-, hresolved, -⟩ := sameAs_iff_interchangeable s s
  obtain ⟨-, -, hsame⟩ := hresolved (TypeRegistry.empty.insert (type "old"))
  refine ⟨by decide, ?_, ?_⟩
  · rw [hsame.homeFor]
    decide
  · rw [hsame.homeFor]
    decide

end OverrideSet

end ToolSites
