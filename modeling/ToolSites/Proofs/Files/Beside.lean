import ToolSites.Proofs.Files.Making
/-!
# Files beside a path

A file is written beside the path at which it is to stand, and renamed when it is complete.
Where the directory above is there, none of this is seen at the path: what is read there
stays the same whatever becomes of the file beside it (`AloneAt.unseen`),
until it is renamed and what is read is that file (`read_rename`). Nor do several such files
meet: each stays as it is when another is written or renamed (`find?_rename_other`).
-/

namespace ToolSites.FileTree

variable {t u : FileTree} {path : Path} {directory place target : Place}

/-! ## Where the directory is there -/

/-- The file is written in this directory. -/
abbrev Ready (t : FileTree) (path : Path) (directory : Place) : Prop :=
  t.LeadsToDirectory path.parent directory

/-- A place beside the path, of a file that is written before it is renamed. -/
def Beside (path : Path) (directory place : Place) : Prop :=
  ∃ n, place = directory ++ [temporaryName path.name n]

theorem Beside.ne_directory (h : Beside path directory place) : place ≠ directory := by
  obtain ⟨n, rfl⟩ := h
  intro he
  have hlength := congrArg List.length he
  rw [List.length_append, List.length_singleton] at hlength
  omega

theorem Beside.ne_nil (h : Beside path directory place) : place ≠ [] := by
  obtain ⟨n, rfl⟩ := h
  exact List.append_ne_nil_of_right_ne_nil _ (List.cons_ne_nil _ _)

theorem Ready.prepared (h : t.Ready path directory) : t.prepared path = t := by
  rw [FileTree.prepared, makeDirectories_of_directory h]

/-- From its directory the path leads on by its name, if it has one. -/
theorem Ready.step (h : t.Ready path directory) (hl : t.locate path = .ok target) :
    (path.parts = [] ∧ target = directory) ∨
      (path.parts ≠ [] ∧ t.step directory path.name = .ok target) := by
  by_cases hparts : path.parts = []
  · have hparent : path.parent = path := by
      rw [Path.parent, hparts, List.dropLast_nil, ← hparts]
    have hd := h.1
    rw [hparent, hl] at hd
    cases hd
    exact .inl ⟨hparts, rfl⟩
  · obtain ⟨above, habove, hstep⟩ := locate_parent hl hparts
    cases h.1.symm.trans habove.1
    exact .inr ⟨hparts, hstep⟩

/-- The path does not lead to a place beside it. -/
theorem Ready.target_ne (h : t.Ready path directory) (hl : t.locate path = .ok target)
    (hbeside : Beside path directory place) : target ≠ place := by
  rintro rfl
  rcases h.step hl with ⟨-, he⟩ | ⟨-, hstep⟩
  · exact hbeside.ne_directory he
  · obtain ⟨n, rfl⟩ := hbeside
    by_cases hname : path.name = ".."
    · -- two dots lead back, to a place with fewer names
      rw [FileTree.step, h.2, hname] at hstep
      have hback := congrArg (Except.map List.length) hstep
      simp [Except.map] at hback
    · have hname := (List.append_singleton_inj.1 ((step_eq_ok hstep).2 hname)).2
      exact temporaryName_ne _ _ hname

/-- Two trees in which the directory is there lead the path to the same place. -/
theorem Ready.locate_eq (h : t.Ready path directory) (hu : u.Ready path directory) :
    u.locate path = t.locate path := by
  by_cases hparts : path.parts = []
  · have hparent : path.parent = path := by
      rw [Path.parent, hparts, List.dropLast_nil, ← hparts]
    rw [← hparent, h.1, hu.1]
  · have hfollow : ∀ {v : FileTree}, v.Ready path directory →
        v.follow (if path.isAbsolute then [] else v.current) path.parts = v.step directory path.name := by
      intro v hv
      have habove : v.follow (if path.isAbsolute then [] else v.current) path.parent.parts = .ok directory :=
        (locate_eq_ok.1 hv.1).2.2
      rw [Path.parts_eq hparts, follow_concat, habove]
      rfl
    have hstep : u.step directory path.name = t.step directory path.name := by
      rw [FileTree.step, FileTree.step, h.2, hu.2]
    rw [locate, locate, hfollow h, hfollow hu, hstep]

/-! ## Writing beside it -/

/-- The trees differ at the place at most, and there neither has a directory. -/
structure AloneAt (place : Place) (t u : FileTree) : Prop where
  current : u.current = t.current
  others : ∀ other, other ≠ place → u.find? other = t.find? other
  before : t.find? place ≠ some .directory
  after : u.find? place ≠ some .directory

theorem put_put (t : FileTree) (place : Place) (entry last : FileEntry) :
    (t.put place entry).put place last = t.put place last := by
  simp [put, erase, List.filter_filter]

theorem aloneAt_put {bytes : List UInt8} (hne : place ≠ []) (h : t.find? place ≠ some .directory) :
    AloneAt place t (t.put place (.file bytes)) where
  current := rfl
  others other ho := by rw [find?_put t hne, if_neg ho]
  before := h
  after := by rw [find?_put t hne, if_pos rfl]; simp

theorem aloneAt_erase (hne : place ≠ []) (h : t.find? place ≠ some .directory) :
    AloneAt place t (t.erase place) where
  current := rfl
  others other ho := by rw [find?_erase t hne, if_neg ho]
  before := h
  after := by rw [find?_erase t hne, if_pos rfl]; simp

section Alone

variable (h : AloneAt place t u)
include h

theorem AloneAt.leadsToDirectory {other : Path} (hd : t.LeadsToDirectory other directory) :
    u.LeadsToDirectory other directory := by
  have hdir : ∀ other, t.find? other = some .directory → u.find? other = some .directory := by
    intro other ho
    rw [h.others other (fun he => h.before (he ▸ ho)), ho]
  exact ⟨locate_mono h.current hdir hd.1, hdir directory hd.2⟩

variable (hready : t.Ready path directory) (hbeside : Beside path directory place)
include hready hbeside

/-- At the path nothing of it is seen. -/
theorem AloneAt.unseen : u.isFile path = t.isFile path ∧ u.read path = t.read path := by
  have hl : u.locate path = t.locate path := hready.locate_eq (h.leadsToDirectory hready)
  unfold isFile look read
  rw [hl]
  cases ht : t.locate path with
  | error fault => cases fault <;> exact ⟨rfl, rfl⟩
  | ok target =>
    have hfind : u.find? target = t.find? target := h.others target (hready.target_ne ht hbeside)
    simp only [Except.bind, hfind, and_self]

end Alone

/-! ## Renaming it -/

section Renamed

variable {bytes : List UInt8} (hrename : t.rename place path = .ok u)
  (hfile : t.find? place = some (.file bytes))
include hrename hfile

/-- The file is at the path, and it is nowhere else any more. -/
theorem find?_rename (hne : place ≠ []) : ∃ target, t.locate path = .ok target ∧
    t.find? target ≠ some .directory ∧ u.current = t.current ∧ ∀ other, u.find? other =
      if other = target then some (.file bytes) else if other = place then none else t.find? other := by
  obtain ⟨-, target, entry, -, -, hl, hd, hf, -, rfl⟩ := rename_eq_ok.1 hrename
  cases hfile.symm.trans hf
  have htarget : target ≠ [] := by
    rintro rfl
    simp [FileTree.find?] at hd
  refine ⟨target, hl, hd, rfl, fun other => ?_⟩
  rw [find?_put _ htarget, find?_erase _ hne]

variable (hready : t.Ready path directory) (hbeside : Beside path directory place)
include hready hbeside

/-- The directory is still there. -/
theorem ready_rename : u.Ready path directory := by
  obtain ⟨target, -, hnd, hcur, hfind⟩ := find?_rename hrename hfile hbeside.ne_nil
  have hdir : ∀ other, t.find? other = some .directory → u.find? other = some .directory := by
    intro other ho
    rw [hfind, if_neg, if_neg, ho]
    · rintro rfl
      rw [hfile] at ho
      cases ho
    · rintro rfl
      exact hnd ho
  exact ⟨locate_mono hcur hdir hready.1, hdir directory hready.2⟩

/-- What is read at the path is the file. -/
theorem read_rename : u.read path = .ok bytes := by
  obtain ⟨target, hl, -, -, hfind⟩ := find?_rename hrename hfile hbeside.ne_nil
  have hl' : u.locate path = .ok target :=
    (hready.locate_eq (ready_rename hrename hfile hready hbeside)).trans hl
  exact read_eq_ok.2 ⟨rfl, target, hl', by rw [hfind, if_pos rfl], rfl⟩

/-- Other files beside the path stay as they are. -/
theorem find?_rename_other {other : Place} (hother : Beside path directory other) (hne : other ≠ place) :
    u.find? other = t.find? other := by
  obtain ⟨target, hl, -, -, hfind⟩ := find?_rename hrename hfile hbeside.ne_nil
  rw [hfind, if_neg (hready.target_ne hl hother).symm, if_neg hne]

end Renamed

end ToolSites.FileTree
