import ToolSites.Files.Replace
import ToolSites.Proofs.Results
/-!
# What replacing a file changes

Replacing a file first makes the directories above it; `Extends` says that this
only adds directories. A file is then written at `destination`, which
is where the path leads once they are made. `replace_ok`: after a replacement that
succeeds the file stands there and nothing else has changed. `left_of_replace_error`: one
that fails leaves the directories that were made, and the file beside the path if the machine
refuses to remove it. `read_replace` and `read_replace_other` say what is read afterwards.
-/

namespace ToolSites.FileTree

/-! ## Trees with more directories -/

/-- The tree `u` is the tree `t` with some directories added. -/
structure Extends (t u : FileTree) : Prop where
  current : u.current = t.current
  find? : ∀ place, u.find? place = t.find? place ∨
    (t.find? place = none ∧ u.find? place = some .directory)

theorem Extends.refl (t : FileTree) : t.Extends t := ⟨rfl, fun _ => .inl rfl⟩

theorem Extends.trans {t u v : FileTree} (h : t.Extends u) (h' : u.Extends v) : t.Extends v where
  current := h'.current.trans h.current
  find? place := by
    rcases h'.find? place with e | ⟨e, hv⟩
    · rw [e]; exact h.find? place
    · rcases h.find? place with e' | ⟨-, hu⟩
      · exact .inr ⟨e' ▸ e, hv⟩
      · rw [hu] at e; cases e

/-- What stood in the tree still stands there. -/
theorem Extends.find?_of_some {t u : FileTree} (h : t.Extends u) {place : Place} {entry : FileEntry}
    (he : t.find? place = some entry) : u.find? place = some entry := by
  rcases h.find? place with e | ⟨e, -⟩
  · rw [e, he]
  · rw [he] at e; cases e

/-- No file was added, changed or removed. -/
theorem Extends.file_iff {t u : FileTree} (h : t.Extends u) (place : Place) (bytes : List UInt8) :
    u.find? place = some (.file bytes) ↔ t.find? place = some (.file bytes) := by
  rcases h.find? place with e | ⟨e, hu⟩
  · rw [e]
  · rw [e, hu]; simp

/-! ## Following a path -/

/-- A step that succeeds starts from a directory. -/
theorem step_eq_ok {t : FileTree} {place next : Place} {part : String}
    (h : t.step place part = .ok next) :
    t.find? place = some .directory ∧ (part ≠ ".." → next = place ++ [part]) := by
  unfold step at h
  split at h
  · cases h
  · cases h
  · next hd =>
    refine ⟨hd, fun hne => ?_⟩
    rw [if_neg hne] at h
    split at h
    · cases h
    · cases h; rfl

theorem follow_mono {t u : FileTree}
    (hdir : ∀ place, t.find? place = some .directory → u.find? place = some .directory)
    {place target : Place} {parts : List String} (h : t.follow place parts = .ok target) :
    u.follow place parts = .ok target := by
  induction parts generalizing place with
  | nil => exact h
  | cons part rest ih =>
    rw [follow] at h ⊢
    cases hs : t.step place part with
    | error e => rw [hs] at h; cases h
    | ok next =>
      -- the directory that the step starts from is there in `u` too
      have hd : t.find? place = some .directory := (step_eq_ok hs).1
      have hu : u.step place part = .ok next := by
        rw [← hs, step, step, hd, hdir place hd]
      rw [hs] at h
      rw [hu]
      exact ih h

/-- A path leads to the same place where all directories are still there. -/
theorem locate_mono {t u : FileTree} (hcur : u.current = t.current)
    (hdir : ∀ place, t.find? place = some .directory → u.find? place = some .directory)
    {path : Path} {place : Place} (h : t.locate path = .ok place) : u.locate path = .ok place := by
  unfold locate at h ⊢
  split at h
  · cases h
  · next hz =>
    split at h
    · cases h
    · next hs =>
      rw [if_neg hz, if_neg hs, hcur]
      exact follow_mono hdir h

/-! ## Making directories -/

theorem extends_put_directory {t : FileTree} {place : Place} (h : t.find? place = none) :
    t.Extends (t.put place .directory) where
  current := rfl
  find? other := by
    -- the root is always there
    have hne : place ≠ [] := by rintro rfl; simp [FileTree.find?] at h
    rw [find?_put t hne]
    split
    · next he => exact .inr ⟨he ▸ h, rfl⟩
    · exact .inl rfl

theorem makeDirectory_eq_ok [Host] {t u : FileTree} {path : Path} : t.makeDirectory path = .ok u ↔
    Host.encodes path.text = true ∧ ∃ place, t.locate path = .ok place ∧ t.find? place = none ∧
      Host.refuses .makeDirectory place = none ∧ u = t.put place .directory := by
  unfold makeDirectory
  split
  · next hencodes =>
    rw [and_iff_right hencodes]
    refine bind_eq_ok.trans (exists_congr fun place => and_congr_right fun _ => ?_)
    split
    · next hsome => simp [Option.isSome_iff_ne_none.1 hsome]
    · next hnone =>
      simp only [Host.map_ask_eq_ok, Option.not_isSome_iff_eq_none.1 hnone, true_and]
  · next hencodes => simp [hencodes]

theorem makeDirectory_extends [Host] {t u : FileTree} {path : Path} (h : t.makeDirectory path = .ok u) :
    t.Extends u := by
  obtain ⟨-, place, -, hfree, -, rfl⟩ := makeDirectory_eq_ok.1 h
  exact extends_put_directory hfree

theorem ensureDirectory_extends [Host] {t u : FileTree} {path : Path}
    (h : t.ensureDirectory path = .ok u) : t.Extends u := by
  unfold ensureDirectory at h
  split at h
  · next hm => cases h; exact makeDirectory_extends hm
  · cases h
  · cases h
  · cases h
  · split at h
    · cases h; exact .refl t
    · cases h
    · cases h

/-- Making directories adds directories, even where it fails. -/
theorem makeDirectories_extends [Host] (t : FileTree) (path : Path) :
    t.Extends (t.makeDirectories path).2 := by
  fun_induction makeDirectories t path with
  | case1 path made h => exact ensureDirectory_extends h
  | case2 path => exact .refl t
  | case3 path _ _ fault above hm ih => rw [hm] at ih; exact ih
  | case4 path _ _ above hm made he ih => rw [hm] at ih; exact ih.trans (ensureDirectory_extends he)
  | case5 path _ _ above hm fault he ih => rw [hm] at ih; exact ih
  | case6 path fault => exact .refl t

/-! ## Replacing -/

/-- The tree in which a file is written: the directories above it are made first. -/
def prepared [Host] (t : FileTree) (path : Path) : FileTree := (t.makeDirectories path.parent).2

/-- Where a file that is written at the path comes to stand. -/
def destination [Host] (t : FileTree) (path : Path) : Except FileFault Place := (t.prepared path).locate path

theorem prepared_extends [Host] (t : FileTree) (path : Path) : t.Extends (t.prepared path) :=
  makeDirectories_extends t path.parent

/-- The first of some places at which nothing stands. -/
theorem find?_free {t : FileTree} {count : Nat} {places : Nat → Place} {place : Place} :
    (((List.range count).map places).find? fun place => (t.find? place).isNone) = some place ↔
      ∃ n < count, place = places n ∧ t.find? place = none ∧ ∀ m < n, t.find? (places m) ≠ none := by
  rw [List.find?_map, Option.map_eq_some_iff]
  simp only [List.find?_range_eq_some, Function.comp, List.mem_range, Option.isNone_iff_eq_none,
    Bool.not_eq_eq_eq_not, Bool.not_true, Option.isNone_eq_false_iff, Option.isSome_iff_ne_none]
  constructor
  · rintro ⟨n, ⟨hfree, hn, htaken⟩, rfl⟩
    exact ⟨n, hn, rfl, hfree, htaken⟩
  · rintro ⟨n, hn, rfl, hfree, htaken⟩
    exact ⟨n, ⟨hfree, hn, htaken⟩, rfl⟩

/-- The file is first written beside the path, under the first temporary name that is free. -/
theorem temporaryPlace_eq_ok [Host] {t : FileTree} {path : Path} {place : Place} :
    t.temporaryPlace path = .ok place ↔ ∃ directory, t.locate path.parent = .ok directory ∧
      Host.encodes path.name = true ∧ '\x00' ∉ path.name.toList ∧ (temporaryName path.name 0).utf8ByteSize ≤ maxName ∧
      ("/" ++ "/".intercalate place).utf8ByteSize ≤ maxPath ∧ Host.refuses .create place = none ∧
      ∃ n < t.entries.length + 1, place = directory ++ [temporaryName path.name n] ∧
        t.find? place = none ∧ ∀ m < n, t.find? (directory ++ [temporaryName path.name m]) ≠ none := by
  have hopened : ∀ found : Place, (Host.ask .create found).map (fun _ => found) = .ok place ↔
      Host.refuses .create found = none ∧ place = found := fun found => Host.map_ask_eq_ok
  unfold temporaryPlace
  cases t.locate path.parent with
  | error e => simp [Except.bind]
  | ok directory =>
    simp only [Except.bind, Except.ok.injEq, exists_eq_left', ← find?_free]
    cases hf : ((List.range (t.entries.length + 1)).map fun n =>
      directory ++ [temporaryName path.name n]).find? fun place => (t.find? place).isNone with
    | none => grind
    | some found => grind

/-- A place beside the file that no file has. -/
theorem temporaryPlace_free [Host] {t : FileTree} {path : Path} {place : Place}
    (h : t.temporaryPlace path = .ok place) : place ≠ [] ∧ t.find? place = none := by
  obtain ⟨directory, -, -, -, -, -, -, n, -, rfl, hfree, -⟩ := temporaryPlace_eq_ok.1 h
  exact ⟨List.append_ne_nil_of_right_ne_nil _ (List.cons_ne_nil _ _), hfree⟩

/-- Writing a new file leaves the way of every other path as it was. -/
theorem locate_of_put_file {t : FileTree} {temporary : Place} (hne : temporary ≠ [])
    {bytes : List UInt8} {path : Path} {place : Place}
    (h : (t.put temporary (.file bytes)).locate path = .ok place) : t.locate path = .ok place := by
  refine locate_mono (t := t.put temporary (.file bytes)) (u := t) rfl (fun other hd => ?_) h
  rw [find?_put t hne] at hd
  split at hd
  · cases hd
  · exact hd

theorem rename_eq_ok [Host] {t u : FileTree} {place : Place} {path : Path} :
    t.rename place path = .ok u ↔ ∃ directory target entry, t.locate path.parent = .ok directory ∧
      (path.parts ≠ [] ∧ path.name ≠ "..") ∧ t.locate path = .ok target ∧
      t.find? target ≠ some .directory ∧ t.find? place = some entry ∧
      Host.refuses .rename target = none ∧ u = (t.erase place).put target entry := by
  have hrenamed : ∀ (target : Place) (entry : FileEntry),
      (Host.ask .rename target).map (fun _ => (t.erase place).put target entry) = .ok u ↔
        Host.refuses .rename target = none ∧ u = (t.erase place).put target entry :=
    fun target entry => Host.map_ask_eq_ok
  unfold rename
  cases t.locate path.parent with
  | error e => simp [Except.bind]
  | ok directory =>
    by_cases hbusy : path.parts = [] ∨ path.name = ".."
    · simp [Except.bind, hbusy, ← not_or]
    cases hl : t.locate path with
    | error e => simp [Except.bind, hbusy]
    | ok target =>
      simp only [Except.bind, hbusy, ← not_or, if_false]
      grind

/-- What was written of a new file stands at its place. -/
theorem fill_cases [Host] (t : FileTree) (place : Place) (bytes : List UInt8) :
    (Host.stops place bytes = none ∧ t.fill place bytes = (.ok (), t.put place (.file bytes))) ∨
      ∃ fault written, Host.stops place bytes ≠ none ∧
        t.fill place bytes = (.error fault, t.put place (.file written)) := by
  unfold fill
  cases hstops : Host.stops place bytes with
  | none => exact .inl ⟨rfl, rfl⟩
  | some stopped => exact .inr ⟨_, stopped.1, Option.some_ne_none _, rfl⟩

theorem replace_eq_ok [Host] {t done : FileTree} {path : Path} {bytes : List UInt8} :
    t.replace path bytes = (.ok (), done) ↔ (t.makeDirectories path.parent).1 = .ok () ∧
      ∃ temporary, (t.prepared path).temporaryPlace path = .ok temporary ∧
        Host.stops temporary bytes = none ∧
        ((t.prepared path).put temporary (.file bytes)).rename temporary path = .ok done := by
  have hdiscard : ∀ (u : FileTree) (place : Place) (fault : FileFault),
      u.discard place fault ≠ (.ok (), done) := by
    intro u place fault h
    unfold discard at h
    split at h <;> cases h
  unfold replace prepared
  rcases t.makeDirectories path.parent with ⟨fault | _, made⟩
  · simp
  dsimp only
  cases made.temporaryPlace path with
  | error fault => simp
  | ok temporary =>
    rcases made.fill_cases temporary bytes with ⟨hwhole, hfill⟩ | ⟨fault, written, hstops, hfill⟩
    · simp only [hfill, Except.ok.injEq, exists_eq_left', hwhole, true_and]
      cases (made.put temporary (.file bytes)).rename temporary path with
      | ok renamed => simp
      | error fault => simp [hdiscard]
    · simp [hfill, hdiscard, hstops]

/-- Where the file cannot be written beside the path because its name is too long, the
directories are made all the same. -/
theorem replace_of_long [Host] {t : FileTree} {path : Path} (bytes : List UInt8)
    (hlong : maxName < (temporaryName path.name 0).utf8ByteSize) :
    (t.replace path bytes).2 = t.prepared path := by
  unfold replace prepared
  rcases t.makeDirectories path.parent with ⟨fault | _, made⟩
  · rfl
  · cases htemporary : made.temporaryPlace path with
    | error fault => simp only [htemporary]
    | ok place =>
      obtain ⟨-, -, -, -, hfits, -⟩ := temporaryPlace_eq_ok.1 htemporary
      omega

/-- A replacement that succeeds puts the file at its destination, where no directory
was, and changes nothing but for the directories made on the way. -/
theorem replace_ok [Host] {t done : FileTree} {path : Path} {bytes : List UInt8}
    (h : t.replace path bytes = (.ok (), done)) :
    ∃ target, t.destination path = .ok target ∧ (t.prepared path).find? target ≠ some .directory ∧
      done.current = t.current ∧ ∀ place, done.find? place =
        if place = target then some (.file bytes) else (t.prepared path).find? place := by
  obtain ⟨-, temporary, ht, -, hr⟩ := replace_eq_ok.1 h
  obtain ⟨hne, hfree⟩ := temporaryPlace_free ht
  obtain ⟨-, target, entry, -, -, hl, hd, hf, -, rfl⟩ := rename_eq_ok.1 hr
  have htarget : target ≠ [] := by rintro rfl; simp [FileTree.find?] at hd
  rw [find?_put _ hne, if_pos rfl] at hf
  cases hf
  -- the temporary place was free, so that nothing is missing once it is taken away
  refine ⟨target, locate_of_put_file hne hl, fun he => ?_, (prepared_extends t path).current,
    fun place => ?_⟩
  · rw [find?_put _ hne] at hd
    split at hd
    · next hp => rw [hp, hfree] at he; cases he
    · exact hd he
  · rw [find?_put _ htarget, find?_erase _ hne, find?_put _ hne]
    split
    · rfl
    split
    · next hp => rw [hp, hfree]
    · rfl

/-- What is put where nothing stands can be taken away again. -/
theorem erase_put_of_free {t : FileTree} {place : Place} (hne : place ≠ []) (hfree : t.find? place = none)
    (entry : FileEntry) : (t.put place entry).erase place = t := by
  have hother : ∀ e ∈ t.entries, (e.1 != place) = true := by
    intro e he
    rw [bne_iff_ne]
    intro hp
    rw [FileTree.find?, if_neg hne, Option.map_eq_none_iff, List.find?_eq_none] at hfree
    exact hfree e he (decide_eq_true hp)
  have hentries : t.entries.filter (fun e => e.1 != place) = t.entries := List.filter_eq_self.2 hother
  have hhead : (place != place) = false := bne_self_eq_false place
  simp only [erase, put, List.filter_cons, hhead, Bool.false_eq_true, if_false, hentries]

/-- The directories were made, and a file was written beside the path that the machine refuses to
remove. -/
def LeftBeside [Host] (t left : FileTree) (path : Path) (temporary : Place) : Prop :=
  (t.prepared path).temporaryPlace path = .ok temporary ∧ Host.refuses .remove temporary ≠ none ∧
    ∃ written, left = (t.prepared path).put temporary (.file written)

/-- What is written beside the path in vain is removed again, or stays. -/
theorem left_of_discard [Host] {t left : FileTree} {path : Path} {temporary : Place} {written : List UInt8}
    {fault reason : FileFault} (ht : (t.prepared path).temporaryPlace path = .ok temporary)
    (h : ((t.prepared path).put temporary (.file written)).discard temporary reason = (.error fault, left)) :
    left = t.prepared path ∨ t.LeftBeside left path temporary := by
  obtain ⟨hne, hfree⟩ := temporaryPlace_free ht
  unfold discard at h
  cases hask : Host.ask .remove temporary with
  | ok =>
    rw [hask] at h
    cases h
    exact .inl (erase_put_of_free hne hfree _)
  | error refused =>
    rw [hask] at h
    cases h
    refine .inr ⟨ht, fun hgranted => ?_, written, rfl⟩
    rw [Host.ask_eq_ok.2 hgranted] at hask
    cases hask

/-- A replacement that fails leaves the directories that were made, and nothing else unless the machine
refuses to remove it. -/
theorem left_of_replace_error [Host] {t left : FileTree} {path : Path} {bytes : List UInt8}
    {fault : FileFault} (h : t.replace path bytes = (.error fault, left)) :
    left = t.prepared path ∨ ∃ temporary, t.LeftBeside left path temporary := by
  have hdiscard : ∀ {temporary : Place} {written : List UInt8} {reason : FileFault},
      (t.prepared path).temporaryPlace path = .ok temporary →
      ((t.prepared path).put temporary (.file written)).discard temporary reason = (.error fault, left) →
      left = t.prepared path ∨ ∃ temporary, t.LeftBeside left path temporary := fun ht hd =>
    (left_of_discard ht hd).imp_right fun hleft => ⟨_, hleft⟩
  unfold prepared at hdiscard ⊢
  unfold replace at h
  rcases hm : t.makeDirectories path.parent with ⟨_ | _, made⟩
  · rw [hm] at h
    cases h
    exact .inl rfl
  rw [hm] at h hdiscard
  dsimp only at h hdiscard ⊢
  cases ht : made.temporaryPlace path with
  | error e =>
    rw [ht] at h
    cases h
    exact .inl rfl
  | ok temporary =>
    rw [ht] at h
    dsimp only at h
    rcases made.fill_cases temporary bytes with ⟨-, hfill⟩ | ⟨reason, written, -, hfill⟩
    · rw [hfill] at h
      dsimp only at h
      cases hr : (made.put temporary (.file bytes)).rename temporary path with
      | ok renamed =>
        rw [hr] at h
        cases h
      | error reason =>
        rw [hr] at h
        exact hdiscard ht h
    · rw [hfill] at h
      exact hdiscard ht h

/-- On a machine that refuses nothing only the directories that were made are left. -/
theorem eq_of_replace_error {t left : FileTree} {path : Path} {bytes : List UInt8} {fault : FileFault}
    (h : t.replace path bytes = (.error fault, left)) : left = t.prepared path := by
  rcases left_of_replace_error h with hleft | ⟨temporary, -, hrefused, -⟩
  · exact hleft
  · exact absurd rfl hrefused

/-! ## Reading what was replaced -/

section Replaced

variable [Host] {t done : FileTree} {path : Path} {bytes : List UInt8}

/-- Directories stay directories. -/
theorem directory_replace (h : t.replace path bytes = (.ok (), done)) {place : Place}
    (hd : (t.prepared path).find? place = some .directory) : done.find? place = some .directory := by
  obtain ⟨target, -, hnd, -, hfind⟩ := replace_ok h
  rw [hfind, if_neg, hd]
  rintro rfl
  exact hnd hd

/-- Paths lead where they led when the directories were made. -/
theorem locate_of_prepared (h : t.replace path bytes = (.ok (), done)) {other : Path} {place : Place}
    (hl : (t.prepared path).locate other = .ok place) : done.locate other = .ok place := by
  obtain ⟨-, -, -, hcur, -⟩ := replace_ok h
  exact locate_mono (hcur.trans (prepared_extends t path).current.symm)
    (fun _ hd => directory_replace h hd) hl

/-- The path leads to the file that was written. -/
theorem locate_replace (h : t.replace path bytes = (.ok (), done)) :
    ∃ target, t.destination path = .ok target ∧ done.locate path = .ok target ∧
      done.find? target = some (.file bytes) := by
  obtain ⟨target, hdest, -, -, hfind⟩ := replace_ok h
  exact ⟨target, hdest, locate_of_prepared h hdest, by rw [hfind, if_pos rfl]⟩

theorem read_eq_ok {path : Path} {bytes : List UInt8} : t.read path = .ok bytes ↔
    Host.encodes path.text = true ∧ ∃ place, t.locate path = .ok place ∧
      t.find? place = some (.file bytes) ∧ Host.refuses .read place = none := by
  unfold read
  split
  · next hencodes =>
    rw [and_iff_right hencodes]
    refine bind_eq_ok.trans (exists_congr fun place => and_congr_right fun _ => ?_)
    rcases t.find? place with _ | _ | found
    · simp
    · simp
    · simp only [Host.map_ask_eq_ok, Option.some.injEq, FileEntry.file.injEq]
      rw [and_comm, eq_comm]
  · next hencodes => simp [hencodes]

/-- What could be read can still be read. -/
theorem Extends.read {u : FileTree} (h : t.Extends u) {path : Path} {bytes : List UInt8}
    (hread : t.read path = .ok bytes) : u.read path = .ok bytes := by
  obtain ⟨hencodes, place, hl, hf, hgranted⟩ := read_eq_ok.1 hread
  refine read_eq_ok.2 ⟨hencodes, place, ?_, h.find?_of_some hf, hgranted⟩
  exact locate_mono h.current (fun _ hd => h.find?_of_some hd) hl

/-- Another file is where it was and reads as before. -/
theorem read_replace_other (h : t.replace path bytes = (.ok (), done)) {other : Path}
    (hne : t.destination path ≠ t.locate other) {found : List UInt8} (hr : t.read other = .ok found) :
    done.locate other = t.locate other ∧ done.read other = .ok found := by
  have hext := prepared_extends t path
  obtain ⟨target, hdest, -, hcur, hfind⟩ := replace_ok h
  obtain ⟨hencodes, place, hl, hf, hgranted⟩ := read_eq_ok.1 hr
  have hl' : done.locate other = .ok place :=
    locate_mono hcur (fun _ hd => directory_replace h (hext.find?_of_some hd)) hl
  refine ⟨hl'.trans hl.symm, read_eq_ok.2 ⟨hencodes, place, hl', ?_, hgranted⟩⟩
  rw [hfind, if_neg]
  · exact hext.find?_of_some hf
  · rintro rfl
    exact hne (hdest.trans hl.symm)

end Replaced

/-- Where nothing is refused, what can be read is a file. -/
theorem isFile_of_read {t : FileTree} {path : Path} {bytes : List UInt8} (h : t.read path = .ok bytes) :
    t.isFile path = .ok true := by
  obtain ⟨-, place, hl, hf, -⟩ := read_eq_ok.1 h
  simp only [isFile, look, hl, hf]
  rfl

/-- The path reads as the bytes that were written. -/
theorem read_replace {t done : FileTree} {path : Path} {bytes : List UInt8}
    (h : t.replace path bytes = (.ok (), done)) : done.read path = .ok bytes := by
  obtain ⟨target, -, hl, hf⟩ := locate_replace h
  exact read_eq_ok.2 ⟨rfl, target, hl, hf, rfl⟩

end ToolSites.FileTree
