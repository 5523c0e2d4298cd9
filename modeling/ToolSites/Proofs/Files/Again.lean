import Mathlib.Algebra.Group.Nat.Defs
import ToolSites.Proofs.Files.Replace
/-!
# Replacing a file again

Where nothing is refused, a file that was replaced can be replaced again, whatever is written:
`replace_again`.
The directories above it are there by now. Its temporary name was the first free one of a
series, and is so again, because the tree that is left has at least as many entries as
there are names before it. Nothing but the file changes the second time.
-/

namespace ToolSites.Text

/-! ## Hexadecimal digits -/

theorem digitChar_inj {m n : Nat} (hm : m < 16) (hn : n < 16) :
    Nat.digitChar m = Nat.digitChar n ↔ m = n := by
  have all : ∀ m < 16, ∀ n < 16, Nat.digitChar m = Nat.digitChar n → m = n := by decide
  exact ⟨all m hm n hn, congrArg Nat.digitChar⟩

/-- Numbers have the same digits exactly if they agree in their last places. -/
theorem hexDigits_inj {width m n : Nat} :
    hexDigits width m = hexDigits width n ↔ m % 16 ^ width = n % 16 ^ width := by
  induction width generalizing m n with
  | zero => simp [hexDigits, Nat.mod_one]
  | succ width ih =>
    have hlast := digitChar_inj (Nat.mod_lt m (by decide : 0 < 16)) (Nat.mod_lt n (by decide : 0 < 16))
    rw [hexDigits, hexDigits, List.append_singleton_inj, ih, hlast, Nat.pow_succ', Nat.mod_mul, Nat.mod_mul]
    omega

end ToolSites.Text

namespace ToolSites.FileTree

variable {t : FileTree} {path : Path} {directory target : Place}

/-! ## Temporary names -/

/-- After so many names the series starts again. -/
theorem temporaryName_inj {name : String} {m n : Nat} :
    temporaryName name m = temporaryName name n ↔ m % 16 ^ 8 = n % 16 ^ 8 := by
  rw [temporaryName, temporaryName, String.append_left_inj, String.append_right_inj, String.ofList_inj,
    Text.hexDigits_inj]

theorem temporaryName_ne (name : String) (n : Nat) : temporaryName name n ≠ name := by
  intro h
  have hlength := congrArg String.length h
  simp only [temporaryName, String.length_append] at hlength
  have hdot : ".".length = 1 := rfl
  omega

/-- A tree has at least as many entries as there are places where something stands. -/
theorem length_le_entries {places : List Place} (hnodup : places.Nodup)
    (htaken : ∀ place ∈ places, place ≠ [] ∧ t.find? place ≠ none) :
    places.length ≤ t.entries.length := by
  have hlength : (t.entries.map Prod.fst).length = t.entries.length := List.length_map _
  rw [← hlength]
  refine hnodup.length_le_of_subset fun place hp => ?_
  obtain ⟨hne, hfound⟩ := htaken place hp
  rw [find?, if_neg hne, ne_eq, Option.map_eq_none_iff] at hfound
  obtain ⟨e, he⟩ := Option.ne_none_iff_exists'.1 hfound
  have hplace : e.1 = place := by simpa using List.find?_some he
  exact List.mem_map.2 ⟨e, List.mem_of_find?_eq_some he, hplace⟩

/-- So many temporary names are taken only in a tree with at least as many entries. -/
theorem taken_le_entries {name : String} {n : Nat} (hn : n ≤ 16 ^ 8)
    (htaken : ∀ m < n, t.find? (directory ++ [temporaryName name m]) ≠ none) : n ≤ t.entries.length := by
  have hdistinct : ((List.range n).map fun m => directory ++ [temporaryName name m]).Nodup := by
    refine List.pairwise_map.2 (List.pairwise_lt_range.imp_of_mem fun {i j} hi hj hlt he => ?_)
    have hmod := temporaryName_inj.1 (List.append_singleton_inj.1 he).2
    rw [Nat.mod_eq_of_lt (Nat.lt_of_lt_of_le (List.mem_range.1 hi) hn),
      Nat.mod_eq_of_lt (Nat.lt_of_lt_of_le (List.mem_range.1 hj) hn)] at hmod
    exact absurd hmod (Nat.ne_of_lt hlt)
  have hlength : ((List.range n).map fun m => directory ++ [temporaryName name m]).length = n := by
    rw [List.length_map, List.length_range]
  rw [← hlength]
  refine length_le_entries hdistinct fun place hp => ?_
  obtain ⟨m, hm, rfl⟩ := List.mem_map.1 hp
  exact ⟨List.append_ne_nil_of_right_ne_nil _ (List.cons_ne_nil _ _), htaken m (List.mem_range.1 hm)⟩

/-- The temporary place stays the same as long as the same temporary names are taken. -/
theorem temporaryPlace_again [Host] {u : FileTree} {place : Place} (h : t.temporaryPlace path = .ok place)
    (hparent : ∀ directory, t.locate path.parent = .ok directory → u.locate path.parent = .ok directory)
    (hfind : ∀ directory n, u.find? (directory ++ [temporaryName path.name n]) =
      t.find? (directory ++ [temporaryName path.name n])) :
    u.temporaryPlace path = .ok place := by
  obtain ⟨directory, hl, hencodes, hnull, hname, hsize, hgranted, n, -, rfl, hfree, htaken⟩ :=
    temporaryPlace_eq_ok.1 h
  have htaken' : ∀ m < n, u.find? (directory ++ [temporaryName path.name m]) ≠ none := by
    intro m hm
    rw [hfind]
    exact htaken m hm
  have hsmall : n < 16 ^ 8 := by
    -- otherwise the name has stood in the series before
    refine Nat.lt_of_not_le fun hn => htaken (n % 16 ^ 8) ?_ ?_
    · exact Nat.lt_of_lt_of_le (Nat.mod_lt _ (by decide)) hn
    · rw [temporaryName_inj.2 (Nat.mod_mod _ _), hfree]
  have hcount : n ≤ u.entries.length := taken_le_entries (Nat.le_of_lt hsmall) htaken'
  exact temporaryPlace_eq_ok.2 ⟨directory, hparent _ hl, hencodes, hnull, hname, hsize, hgranted, n,
    Nat.lt_succ_of_le hcount, rfl, (hfind _ _).trans hfree, htaken'⟩

/-! ## The directory above -/

theorem follow_concat (t : FileTree) (place : Place) (parts : List String) (part : String) :
    t.follow place (parts ++ [part]) = (t.follow place parts).bind fun next => t.step next part := by
  induction parts generalizing place with
  | nil =>
    show (t.step place part).bind (t.follow · []) = t.step place part
    cases t.step place part <;> rfl
  | cons first rest ih =>
    rw [List.cons_append, follow, follow]
    cases t.step place first with
    | error e => rfl
    | ok next => exact ih next

/-- Where its text can be one, a path is followed part by part. -/
theorem locate_of_text (hnull : '\x00' ∉ path.text.toList) (hsize : path.text.utf8ByteSize ≤ maxPath) :
    t.locate path = t.follow (if path.isAbsolute then [] else t.current) path.parts := by
  simp [locate, hnull, Nat.not_lt.2 hsize]

theorem locate_eq_ok : t.locate path = .ok target ↔ '\x00' ∉ path.text.toList ∧
    path.text.utf8ByteSize ≤ maxPath ∧
      t.follow (if path.isAbsolute then [] else t.current) path.parts = .ok target := by
  by_cases hnull : '\x00' ∈ path.text.toList
  · simp [locate, hnull]
  · by_cases hsize : path.text.utf8ByteSize ≤ maxPath
    · simp [locate_of_text hnull hsize, hnull, hsize]
    · simp [locate, hnull, hsize, Nat.not_le.1 hsize]

/-- A path leads to its last name, in the directory that the rest of it leads to. -/
theorem locate_of_parent (h : t.locate path = .ok target) (hparent : t.locate path.parent = .ok directory)
    (hparts : path.parts ≠ []) (hname : path.name ≠ "..") :
    t.find? directory = some .directory ∧ target = directory ++ [path.name] := by
  obtain ⟨-, -, hfollow⟩ := locate_eq_ok.1 h
  have habove : t.follow (if path.isAbsolute then [] else t.current) path.parent.parts = .ok directory :=
    (locate_eq_ok.1 hparent).2.2
  rw [Path.parts_eq hparts, follow_concat, habove] at hfollow
  obtain ⟨hd, ht⟩ := step_eq_ok hfollow
  exact ⟨hd, ht hname⟩

/-- A directory stands where the path leads. -/
def LeadsToDirectory (t : FileTree) (path : Path) (directory : Place) : Prop :=
  t.locate path = .ok directory ∧ t.find? directory = some .directory

/-- A directory that is there is not made. -/
theorem ensureDirectory_of_directory (h : t.LeadsToDirectory path directory) :
    t.ensureDirectory path = .ok t := by
  have hoccupied : t.makeDirectory path = .error .occupied := by
    simp [makeDirectory, h.1, Except.bind, h.2]
  rw [ensureDirectory, hoccupied]
  simp [isDirectory, look, h.1, h.2, Except.map]

/-- Nothing is made where a directory is. -/
theorem makeDirectories_of_directory (h : t.LeadsToDirectory path directory) :
    t.makeDirectories path = (.ok (), t) := by
  rw [makeDirectories, ensureDirectory_of_directory h]

/-! ## New files -/

section New

variable {temporary : Place} (hne : temporary ≠ []) (hfree : t.find? temporary = none)
include hne hfree

theorem find?_put_of_some {entry new : FileEntry} {place : Place} (h : t.find? place = some entry) :
    (t.put temporary new).find? place = some entry := by
  rw [find?_put _ hne, if_neg, h]
  rintro rfl
  rw [hfree] at h
  cases h

/-- A new file is in nobody's way. -/
theorem locate_put_file {bytes : List UInt8} (h : t.locate path = .ok target) :
    (t.put temporary (.file bytes)).locate path = .ok target := by
  have hcur : (t.put temporary (.file bytes)).current = t.current := rfl
  exact locate_mono hcur (fun _ hd => find?_put_of_some hne hfree hd) h

end New

/-! ## Whether a file is replaced -/

/-- A replacement succeeds exactly if the directories above are there or can be made, a name can be found
for the file while it is written, the path has a name and leads to no directory, and the machine takes the
file and grants that it is renamed. -/
theorem replace_defined [Host] {bytes : List UInt8} : (∃ done, t.replace path bytes = (.ok (), done)) ↔
    (t.makeDirectories path.parent).1 = .ok () ∧
      (∃ temporary, (t.prepared path).temporaryPlace path = .ok temporary ∧ Host.stops temporary bytes = none) ∧
      (path.parts ≠ [] ∧ path.name ≠ "..") ∧
      ∃ target, t.destination path = .ok target ∧ (t.prepared path).find? target ≠ some .directory ∧
        Host.refuses .rename target = none := by
  constructor
  · rintro ⟨done, h⟩
    obtain ⟨hmade, temporary, ht, hwhole, hr⟩ := replace_eq_ok.1 h
    obtain ⟨hne, -⟩ := temporaryPlace_free ht
    obtain ⟨-, target, -, -, hbusy, hl, -, -, hgranted, -⟩ := rename_eq_ok.1 hr
    obtain ⟨target', hdest, hd, -⟩ := replace_ok h
    cases (locate_of_put_file hne hl).symm.trans hdest
    exact ⟨hmade, ⟨temporary, ht, hwhole⟩, hbusy, target, hdest, hd, hgranted⟩
  · rintro ⟨hmade, ⟨temporary, ht, hwhole⟩, hbusy, target, hdest, hd, hgranted⟩
    obtain ⟨directory, hparent, -⟩ := temporaryPlace_eq_ok.1 ht
    obtain ⟨hne, hfree⟩ := temporaryPlace_free ht
    refine ⟨_, replace_eq_ok.2 ⟨hmade, temporary, ht, hwhole, rename_eq_ok.2 ⟨directory, target, .file bytes,
      locate_put_file hne hfree hparent, hbusy, locate_put_file hne hfree hdest, ?_, ?_, hgranted, rfl⟩⟩⟩
    · rw [find?_put _ hne]
      split
      · simp
      · exact hd
    · rw [find?_put _ hne, if_pos rfl]

/-! ## Again -/

section Replaced

variable [Host] {done : FileTree} {bytes : List UInt8} (h : t.replace path bytes = (.ok (), done))
include h

/-- A file that was replaced stands in its directory under its name. -/
theorem directory_of_replace : ∃ directory, done.locate path.parent = .ok directory ∧
    done.find? directory = some .directory ∧ done.locate path = .ok (directory ++ [path.name]) ∧
    path.parts ≠ [] ∧ path.name ≠ ".." := by
  obtain ⟨-, temporary, ht, -, hr⟩ := replace_eq_ok.1 h
  obtain ⟨directory, hparent, -⟩ := temporaryPlace_eq_ok.1 ht
  obtain ⟨-, -, -, -, ⟨hparts, hname⟩, -⟩ := rename_eq_ok.1 hr
  obtain ⟨target, hdest, hl, -⟩ := locate_replace h
  obtain ⟨hd, rfl⟩ := locate_of_parent hdest hparent hparts hname
  exact ⟨directory, locate_of_prepared h hparent, directory_replace h hd, hl, hparts, hname⟩

/-- Nothing has happened to the temporary names beside it. -/
theorem temporaryPlace_of_replace : ∃ temporary, done.temporaryPlace path = .ok temporary := by
  obtain ⟨-, temporary, ht, -⟩ := replace_eq_ok.1 h
  obtain ⟨directory, -, -, hl, -⟩ := directory_of_replace h
  obtain ⟨target, hdest, -, -, hfind⟩ := replace_ok h
  cases hl.symm.trans (locate_of_prepared h hdest)
  refine ⟨temporary, temporaryPlace_again ht (fun _ => locate_of_prepared h) fun other n => ?_⟩
  rw [hfind, if_neg]
  exact fun he => temporaryName_ne _ _ (List.append_singleton_inj.1 he).2

end Replaced

/-- A file that was replaced can be replaced again, and then nothing else changes. -/
theorem replace_again {done : FileTree} {bytes : List UInt8} (h : t.replace path bytes = (.ok (), done))
    (more : List UInt8) : ∃ target again, done.locate path = .ok target ∧
    done.replace path more = (.ok (), again) ∧
    ∀ place, again.find? place = if place = target then some (.file more) else done.find? place := by
  obtain ⟨directory, hparent, hd, hl, hbusy⟩ := directory_of_replace h
  obtain ⟨temporary, ht⟩ := temporaryPlace_of_replace h
  obtain ⟨target, -, hl', hfile⟩ := locate_replace h
  cases hl.symm.trans hl'
  have hmake : done.makeDirectories path.parent = (.ok (), done) := makeDirectories_of_directory ⟨hparent, hd⟩
  have hprepared : done.prepared path = done := by rw [prepared, hmake]
  obtain ⟨again, hagain⟩ : ∃ again, done.replace path more = (.ok (), again) := by
    refine replace_defined.2
      ⟨by rw [hmake], ⟨temporary, by rw [hprepared, ht], rfl⟩, hbusy, directory ++ [path.name], ?_, ?_, rfl⟩
    · rw [destination, hprepared, hl]
    · rw [hprepared, hfile]
      simp
  obtain ⟨target, hdest, -, -, hfind⟩ := replace_ok hagain
  rw [destination, hprepared] at hdest
  rw [hprepared] at hfind
  exact ⟨target, again, hdest, hagain, hfind⟩

end ToolSites.FileTree
