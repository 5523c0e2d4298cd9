import ToolSites.Proofs.Files.Again
import ToolSites.Proofs.Results
/-!
# Making directories

Making a directory and those above it ends in one of two ways. Either the directory is there
afterwards (`directory_of_makeDirectories`), or the tree has come as far towards it as it
can, and to try again changes nothing (`makeDirectories_again`). Both rest on this: where a
path leads somewhere, the path above it leads to a directory (`locate_parent`).
-/

namespace ToolSites

/-! ## The path above -/

namespace Path

/-- The text of the path above is a single dot, or the path starts with it. -/
theorem text_parent {p : Path} (h : p.parts ≠ []) :
    p.parent.text = "." ∨ ∃ rest, p.text = p.parent.text ++ rest := by
  have hroot : p.parent.root = p.root := rfl
  have htext : p.text = p.root.text ++ "/".intercalate p.parts := by
    rw [text, if_neg fun hdot => h hdot.2]
  by_cases habove : p.parent.parts = []
  · by_cases hrelative : p.root = .relative
    · left
      rw [text, if_pos ⟨hroot.trans hrelative, habove⟩]
    · right
      refine ⟨"/".intercalate p.parts, ?_⟩
      rw [htext, text, if_neg fun hdot => hrelative (hroot.symm.trans hdot.1), habove, hroot,
        String.intercalate_nil, String.append_empty]
  · right
    refine ⟨"/" ++ "/".intercalate [p.name], ?_⟩
    rw [htext, text, if_neg fun hdot => habove hdot.2, hroot, parts_eq h,
      String.intercalate_append_of_ne_nil habove (List.cons_ne_nil _ _)]
    simp only [String.append_assoc]

end Path

namespace FileTree

variable {t u : FileTree} {path : Path} {target : Place}

/-- A path with a last name leads on from a directory, to which the path above it leads. -/
theorem locate_parent (h : t.locate path = .ok target) (hparts : path.parts ≠ []) :
    ∃ directory, t.LeadsToDirectory path.parent directory ∧ t.step directory path.name = .ok target := by
  obtain ⟨hnull, hsize, hfollow⟩ := locate_eq_ok.1 h
  rw [Path.parts_eq hparts, follow_concat] at hfollow
  obtain ⟨directory, habove, hstep⟩ := bind_eq_ok.1 hfollow
  refine ⟨directory, ⟨locate_eq_ok.2 ⟨?_, ?_, habove⟩, (step_eq_ok hstep).1⟩, hstep⟩
  · rcases Path.text_parent hparts with hdot | ⟨rest, htext⟩
    · rw [hdot]
      decide
    · rw [htext, String.toList_append] at hnull
      exact fun hm => hnull (List.mem_append_left _ hm)
  · rcases Path.text_parent hparts with hdot | ⟨rest, htext⟩
    · rw [hdot]
      decide
    · rw [htext, String.utf8ByteSize_append] at hsize
      omega

/-! ## What comes of it -/

/-- The directory is there once it was made. -/
theorem directory_of_makeDirectory (h : t.makeDirectory path = .ok u) :
    ∃ directory, u.LeadsToDirectory path directory := by
  have hext := makeDirectory_extends h
  obtain ⟨-, place, hl, hfree, -, rfl⟩ := makeDirectory_eq_ok.1 h
  have hne : place ≠ [] := by
    rintro rfl
    simp [FileTree.find?] at hfree
  refine ⟨place, locate_mono hext.current (fun _ hd => hext.find?_of_some hd) hl, ?_⟩
  rw [find?_put t hne, if_pos rfl]

theorem directory_of_ensureDirectory (h : t.ensureDirectory path = .ok u) :
    ∃ directory, u.LeadsToDirectory path directory := by
  unfold ensureDirectory at h
  split at h
  · next hmade => cases h; exact directory_of_makeDirectory hmade
  · cases h
  · cases h
  · cases h
  · split at h
    · next hthere =>
      cases h
      unfold isDirectory look at hthere
      cases hl : t.locate path with
      | error fault => rw [hl] at hthere; cases fault <;> cases hthere
      | ok place =>
        rw [hl] at hthere
        refine ⟨place, hl, ?_⟩
        rcases hf : t.find? place with _ | _ | bytes
        · simp [hf, Except.map] at hthere
        · rfl
        · simp [hf, Except.map] at hthere
    · cases h
    · cases h

/-- If nothing fails, the directory is there afterwards. -/
theorem directory_of_makeDirectories (h : t.makeDirectories path = (.ok (), u)) :
    ∃ directory, u.LeadsToDirectory path directory := by
  rw [makeDirectories] at h
  split at h
  · next hmade => cases h; exact directory_of_ensureDirectory hmade
  · split at h
    · cases h
    · split at h
      · cases h
      · split at h
        · next hmade => cases h; exact directory_of_ensureDirectory hmade
        · cases h
  · cases h

/-- No directory is made where its path leads nowhere. -/
theorem ensureDirectory_of_locate {fault : FileFault} (h : t.locate path = .error fault) :
    ∃ reason, t.ensureDirectory path = .error reason := by
  have hmake : t.makeDirectory path = .error fault := by rw [makeDirectory, h]; rfl
  unfold ensureDirectory isDirectory look
  rw [hmake, h]
  cases fault <;> exact ⟨_, rfl⟩

/-- If something fails, no directory is there afterwards. -/
theorem not_directory_of_makeDirectories {fault : FileFault}
    (h : t.makeDirectories path = (.error fault, u)) (directory : Place) :
    ¬ u.LeadsToDirectory path directory := by
  fun_induction makeDirectories t path generalizing fault directory with
  | case1 path made hmade => cases h
  | case2 path hensure hparts =>
    cases h
    intro hd
    rw [ensureDirectory_of_directory hd] at hensure
    cases hensure
  | case3 path hensure hparts reason above hm ih =>
    cases h
    intro hd
    -- a path that leads to a directory leads through one
    obtain ⟨above, habove, -⟩ := locate_parent hd.1 hparts
    exact ih hm above habove
  | case4 path hensure hparts above hm made hmade ih => cases h
  | case5 path hensure hparts above hm reason hagain ih =>
    cases h
    intro hd
    rw [ensureDirectory_of_directory hd] at hagain
    cases hagain
  | case6 path reason hmissing hensure =>
    cases h
    intro hd
    rw [ensureDirectory_of_directory hd] at hensure
    cases hensure

/-! ## Once more -/

/-- Where the directory cannot be made, only the lack of one above it makes a change. -/
theorem makeDirectories_of_error {fault : FileFault} (h : t.ensureDirectory path = .error fault)
    (habove : fault = .missing → path.parts ≠ [] → (t.makeDirectories path.parent).2 = t) :
    (t.makeDirectories path).2 = t := by
  rw [makeDirectories, h]
  cases fault with
  | missing =>
    by_cases hparts : path.parts = []
    · simp [hparts]
    · have hparent := habove rfl hparts
      rcases hm : t.makeDirectories path.parent with ⟨_ | _, above⟩ <;> rw [hm] at hparent <;>
        simp_all
  | _ => rfl

/-- To make the same directories once more changes nothing, whether they were made or could
not be. -/
theorem makeDirectories_again (t : FileTree) (path : Path) :
    ((t.makeDirectories path).2.makeDirectories path).2 = (t.makeDirectories path).2 := by
  have hdone : ∀ {u : FileTree} {path : Path}, (∃ directory, u.LeadsToDirectory path directory) →
      (u.makeDirectories path).2 = u := by
    rintro u path ⟨directory, hd⟩
    rw [makeDirectories_of_directory hd]
  fun_induction makeDirectories t path with
  | case1 path made hmade => exact hdone (directory_of_ensureDirectory hmade)
  | case2 path hensure hparts => exact makeDirectories_of_error hensure fun _ hne => absurd hparts hne
  | case3 path hensure hparts reason above hm ih =>
    rw [hm] at ih
    cases hl : above.locate path with
    | ok target =>
      obtain ⟨directory, hd, -⟩ := locate_parent hl hparts
      exact absurd hd (not_directory_of_makeDirectories hm directory)
    | error fault =>
      obtain ⟨reason, hagain⟩ := ensureDirectory_of_locate hl
      exact makeDirectories_of_error hagain fun _ _ => ih
  | case4 path hensure hparts above hm made hmade ih => exact hdone (directory_of_ensureDirectory hmade)
  | case5 path hensure hparts above hm reason hagain ih =>
    rw [hm] at ih
    exact makeDirectories_of_error hagain fun _ _ => ih
  | case6 path reason hmissing hensure =>
    exact makeDirectories_of_error hensure fun he => absurd he hmissing

end FileTree

end ToolSites
