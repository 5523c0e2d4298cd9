import ToolSites.Proofs.Config.Valid
import ToolSites.Proofs.Expansion
import ToolSites.Proofs.Files.Replace
import ToolSites.Proofs.Text.Utf8
import ToolSites.Proofs.Toml.Stopping
/-!
# What is said of a configuration that does not load

A configuration loads and is valid, or it is told what is wrong with it, in words that name its file.
All else is `Unforeseen`: a path that no file can have, an integer that is too long to be read, what
lies too deep to be read or to be expanded, and the name of a variable that cannot be looked up.
`load_foreseen` says that these are all exceptions, and exactly when each is met.
-/
open ToolSites.Text

namespace ToolSites

/-! ## Paths -/

namespace FileTree

variable {t : FileTree} {path : Path} {fault : FileFault}

/-- Following a path fails for what stands there or for the length of a name. -/
theorem follow_fault {place : Place} {parts : List String} (h : t.follow place parts = .error fault) :
    fault ≠ .nullByte ∧ fault ≠ .unencodable := by
  induction parts generalizing place with
  | nil => cases h
  | cons part rest ih =>
    rcases bind_eq_error.1 h with h | ⟨next, -, h⟩
    · unfold step at h
      repeat' split at h
      all_goals cases h
      all_goals exact ⟨nofun, nofun⟩
    · exact ih h

theorem locate_fault (h : t.locate path = .error fault) :
    (fault = .nullByte → '\x00' ∈ path.text.toList) ∧ fault ≠ .unencodable := by
  unfold locate at h
  split at h
  · next hnull =>
    cases h
    exact ⟨fun _ => List.contains_iff_mem.1 hnull, nofun⟩
  split at h
  · cases h
    exact ⟨nofun, nofun⟩
  · obtain ⟨hnull, hencodes⟩ := follow_fault h
    exact ⟨fun he => absurd he hnull, hencodes⟩

/-- Reading fails where the path leads nowhere, or for what stands there. -/
theorem read_fault [Host] (h : t.read path = .error fault) :
    (fault = .nullByte → Host.encodes path.text = true ∧ '\x00' ∈ path.text.toList) ∧
      (fault = .unencodable → Host.encodes path.text = false) := by
  unfold read at h
  split at h
  · next hencodes =>
    rcases bind_eq_error.1 h with h | ⟨place, -, h⟩
    · obtain ⟨hnull, hother⟩ := locate_fault h
      exact ⟨fun he => ⟨hencodes, hnull he⟩, fun he => absurd he hother⟩
    · split at h
      · cases h
        exact ⟨nofun, nofun⟩
      · cases h
        exact ⟨nofun, nofun⟩
      · unfold Host.ask at h
        split at h
        · cases h
          exact ⟨nofun, nofun⟩
        · cases h
  · next hencodes =>
    cases h
    exact ⟨nofun, fun _ => Bool.eq_false_iff.2 hencodes⟩

/-- A path cannot be read for its null byte exactly if it has one. -/
theorem read_eq_nullByte [Host] : t.read path = .error .nullByte ↔
    Host.encodes path.text = true ∧ '\x00' ∈ path.text.toList := by
  constructor
  · intro h
    exact (read_fault h).1 rfl
  · rintro ⟨hencodes, hnull⟩
    unfold read locate
    rw [if_pos hencodes, if_pos (List.contains_iff_mem.2 hnull)]
    rfl

theorem read_eq_unencodable [Host] : t.read path = .error .unencodable ↔ Host.encodes path.text = false := by
  constructor
  · intro h
    exact (read_fault h).2 rfl
  · intro h
    unfold read
    exact if_neg (Bool.eq_false_iff.1 h)

end FileTree

theorem infix_append (before s after : String) : s.toList <:+: (before ++ s ++ after).toList := by
  rw [String.toList_append, String.toList_append]
  exact List.infix_append _ _ _

/-- Whatever is wrong with a configuration, the path of its file is in what is said about it. -/
theorem ConfigProblem.names_path (path : Path) (problem : ConfigProblem) :
    path.text.toList <:+: (problem.message path).toList := by
  unfold message
  cases problem with
  | missing => exact infix_append _ _ _
  | unreadable fault =>
    dsimp only
    rw [String.append_assoc]
    exact infix_append _ _ _
  | malformed => exact infix_append _ _ _
  | invalid issues =>
    dsimp only
    rw [String.intercalate_cons_append]
    exact infix_append _ _ _

namespace Config

variable {files : FileTree} {vars : Variables} {path : Path} {text : List Char} {e : Error}

/-- There is a configuration, which is valid, or it is told what is wrong, in words that name the file. -/
def Foreseen (path : Path) (loaded : Except Error Config) : Prop :=
  (∃ config, loaded = .ok config ∧ config.Valid) ∨
    ∃ e, loaded = .error e ∧ (∃ problem, e = .config path problem) ∧ path.text.toList <:+: e.message.toList

theorem foreseen_problem (path : Path) (problem : ConfigProblem) :
    Foreseen path (.error (.config path problem)) :=
  .inr ⟨_, rfl, ⟨problem, rfl⟩, problem.names_path path⟩

theorem not_foreseen (hother : ∀ problem, e ≠ .config path problem) : ¬ Foreseen path (.error e) := by
  rintro (⟨_, h, _⟩ | ⟨_, h, ⟨problem, rfl⟩, _⟩)
  · cases h
  · cases h
    exact hother problem rfl

/-- Why no configuration comes of a text, while no problem of it is told: reading it stops, or it cannot
be expanded. -/
inductive GivenUp [Host] (text : List Char) : Error → Prop
  | integer {digits} : Toml.Stops text (.tooManyDigits digits) → GivenUp text (.tooManyDigits digits)
  | nesting : Toml.Stops text .tooDeep → GivenUp text .tooDeep
  | expansion {fields fault} : Toml.read text = .ok fields → (Value.table fields).fault? 0 = some fault →
      GivenUp text fault.error

/-- Why no configuration comes of the file at the path, while no problem of it is told. -/
inductive Unforeseen [Host] (files : FileTree) (path : Path) : Error → Prop
  | nullByte : Host.encodes path.text = true → '\x00' ∈ path.text.toList →
      Unforeseen files path (.file .nullByte)
  | unencodable : Host.encodes path.text = false → Unforeseen files path (.unencodable path.text)
  | text {found reason} : files.read path = .ok (Utf8.encode found) → GivenUp found reason →
      Unforeseen files path reason

/-! ## Texts -/

theorem GivenUp.ne_config [Host] (h : GivenUp text e) (problem : ConfigProblem) : e ≠ .config path problem := by
  cases h with
  | integer => exact nofun
  | nesting => exact nofun
  | @expansion fields fault =>
    cases fault with
    | tooDeep => exact nofun
    | unencodable name => exact nofun

theorem GivenUp.ofText_eq [Host] (h : GivenUp text e) : ofText path vars text = .error e := by
  unfold ofText
  cases h with
  | integer hstops => rw [Toml.read_eq_tooManyDigits.2 hstops]
  | nesting hstops => rw [Toml.read_eq_tooDeep.2 hstops]
  | expansion hread hfault =>
    rw [hread]
    dsimp only
    rw [hfault]

/-- A text is given up or what comes of it is foreseen. -/
theorem ofText_cases [Host] (path : Path) (vars : Variables) (text : List Char) :
    Foreseen path (ofText path vars text) ∨ ∃ e, GivenUp text e := by
  cases hread : Toml.read text with
  | error problem =>
    cases problem with
    | malformed =>
      left
      unfold ofText
      rw [hread]
      exact foreseen_problem path _
    | tooManyDigits digits => exact .inr ⟨_, .integer (Toml.read_eq_tooManyDigits.1 hread)⟩
    | tooDeep => exact .inr ⟨_, .nesting (Toml.read_eq_tooDeep.1 hread)⟩
  | ok fields =>
    cases hfault : (Value.table fields).fault? 0 with
    | some fault => exact .inr ⟨_, .expansion hread hfault⟩
    | none =>
      left
      unfold ofText
      rw [hread]
      dsimp only
      rw [hfault]
      cases hconfig : ofDocument (Value.expand vars (.table fields)) with
      | error issues => exact foreseen_problem path _
      | ok config => exact .inl ⟨config, rfl, valid_of_ofDocument hconfig⟩

/-! ## Files -/

theorem load_of_text [Host] (h : files.read path = .ok (Utf8.encode text)) :
    load files vars path = ofText path vars text := by
  unfold load
  rw [h]
  dsimp only
  rw [Utf8.decode_eq_ok.2 rfl]

theorem load_of_undecodable [Host] {bytes : List UInt8} (h : files.read path = .ok bytes)
    (hbytes : ∀ text, bytes ≠ Utf8.encode text) : load files vars path = .error (.config path .malformed) := by
  obtain ⟨fault, hfault⟩ := Utf8.decode_eq_error.2 hbytes
  unfold load
  rw [h]
  dsimp only
  rw [hfault]

theorem load_of_fault [Host] {fault : FileFault} (h : files.read path = .error fault) (hnull : fault ≠ .nullByte)
    (hencodes : fault ≠ .unencodable) : Foreseen path (load files vars path) := by
  unfold load
  rw [h]
  cases fault with
  | nullByte => exact absurd rfl hnull
  | unencodable => exact absurd rfl hencodes
  | _ => exact foreseen_problem path _

/-- What is unforeseen is told, and it is no problem of the configuration. -/
theorem Unforeseen.load_eq [Host] (h : Unforeseen files path e) :
    load files vars path = .error e ∧ ∀ problem, e ≠ .config path problem := by
  cases h with
  | nullByte hencodes hnull =>
    refine ⟨?_, nofun⟩
    unfold load
    rw [FileTree.read_eq_nullByte.2 ⟨hencodes, hnull⟩]
  | unencodable hencodes =>
    refine ⟨?_, nofun⟩
    unfold load
    rw [FileTree.read_eq_unencodable.2 hencodes]
  | text hread hgives => exact ⟨(load_of_text hread).trans hgives.ofText_eq, hgives.ne_config⟩

theorem load_cases [Host] (files : FileTree) (vars : Variables) (path : Path) :
    Foreseen path (load files vars path) ∨ ∃ e, Unforeseen files path e := by
  cases hread : files.read path with
  | error fault =>
    by_cases hnull : fault = .nullByte
    · subst hnull
      obtain ⟨hencodes, hnull⟩ := FileTree.read_eq_nullByte.1 hread
      exact .inr ⟨_, .nullByte hencodes hnull⟩
    by_cases hencodes : fault = .unencodable
    · subst hencodes
      exact .inr ⟨_, .unencodable (FileTree.read_eq_unencodable.1 hread)⟩
    · exact .inl (load_of_fault hread hnull hencodes)
  | ok bytes =>
    by_cases hbytes : ∃ text, bytes = Utf8.encode text
    · obtain ⟨text, rfl⟩ := hbytes
      rw [load_of_text hread]
      rcases ofText_cases path vars text with hforeseen | ⟨e, hgives⟩
      · exact .inl hforeseen
      · exact .inr ⟨e, .text hread hgives⟩
    · rw [load_of_undecodable hread (not_exists.1 hbytes)]
      exact .inl (foreseen_problem path .malformed)

/-- A configuration loads and is valid, or it is told what is wrong in words that name its file, exactly if
nothing is unforeseen. What is unforeseen is told as what it is, without the file: a null byte in the path,
or a path that the machine cannot encode; and of a file that holds a text, an integer at which reading the
text stops, a value that lies too deep to be read or to be expanded, or the name of a variable that the
machine cannot encode. For the integer the text must have a run of that many digits, and for the depth
as many brackets. -/
theorem load_foreseen [Host] (files : FileTree) (vars : Variables) (path : Path) :
    (Foreseen path (load files vars path) ↔ ∀ e, ¬ Unforeseen files path e) ∧
    (∀ e, Unforeseen files path e ↔
      load files vars path = .error e ∧ ∀ problem, e ≠ .config path problem) ∧
    (∀ text digits, Toml.Stops text (.tooManyDigits digits) → Toml.HasLongRun text digits) ∧
    (∀ text, Toml.Stops text .tooDeep → ∃ depth ≤ text.countP Toml.isOpening, ∃ place,
      Host.follows depth place = false) ∧
    ∀ (v : Value) (fault : ExpansionFault), v.fault? 0 = some fault →
      (fault = .tooDeep ∧ ∃ depth w, Value.Within 0 v depth w ∧ Host.reaches depth w = false) ∨
        ∃ name ∈ v.references, fault = .unencodable name ∧ Host.encodes name = false := by
  refine ⟨⟨fun h e hunforeseen => ?_, fun h => ?_⟩, fun e => ⟨Unforeseen.load_eq, ?_⟩,
    fun text digits => Toml.Stops.hasLongRun, fun text hstops => ?_, fun v fault => Value.exists_of_fault?⟩
  · obtain ⟨hload, hother⟩ := hunforeseen.load_eq
    exact not_foreseen hother (hload ▸ h)
  · rcases load_cases files vars path with hforeseen | ⟨e, hunforeseen⟩
    · exact hforeseen
    · exact absurd hunforeseen (h e)
  · rintro ⟨hload, hother⟩
    rcases load_cases files vars path with hforeseen | ⟨found, hunforeseen⟩
    · exact absurd (hload ▸ hforeseen) (not_foreseen hother)
    · obtain ⟨hfound, -⟩ := hunforeseen.load_eq
      cases hload.symm.trans hfound
      exact hunforeseen
  · obtain ⟨depth, hdepth, place, -, hfollows⟩ := hstops.deep
    exact ⟨depth, hdepth, place, hfollows⟩

/-- A configuration of one field, which is an integer of 4301 digits: nothing is told about it, although
its file can be read and is well formed. -/
theorem load_foreseen_long :
    let text := 'a' :: '=' :: '1' :: List.replicate 4300 '1'
    let files : FileTree := ⟨[], [(["c"], .file (Utf8.encode text))]⟩
    let path : Path := ⟨.slash, ["c"]⟩
    let loaded := load files (fun _ => none) path
    files.read path = .ok (Utf8.encode text) ∧ '\x00' ∉ path.text.toList ∧
      ¬ Foreseen path loaded ∧ loaded = .error (.tooManyDigits 4301) := by
  intro text files path loaded
  have hread : files.read path = .ok (Utf8.encode text) :=
    FileTree.read_eq_ok.2 ⟨rfl, ["c"], toOption_eq_some.1 (by decide +kernel), rfl, rfl⟩
  have hstops : Toml.Stops text (.tooManyDigits 4301) := by
    have hdigits : ∀ c ∈ '1' :: List.replicate 4300 '1', isDigit c = true :=
      List.forall_mem_cons.2 ⟨rfl, fun c hc => List.eq_of_mem_replicate hc ▸ rfl⟩
    have hlength : ('1' :: List.replicate 4300 '1').length = 4301 := by
      rw [List.length_cons, List.length_replicate]
    have h := Toml.stops_of_digits hdigits (by decide) (by rw [hlength]; decide)
    rw [hlength] at h
    exact h
  have hunforeseen : Unforeseen files path (.tooManyDigits 4301) := .text hread (.integer hstops)
  obtain ⟨hforeseen, htold, -⟩ := load_foreseen files (fun _ => none) path
  exact ⟨hread, by decide, fun h => hforeseen.1 h _ hunforeseen, ((htold _).1 hunforeseen).1⟩

end Config

end ToolSites
