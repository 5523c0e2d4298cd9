import ToolSites.Proofs.CommandLine.Editing
import ToolSites.Proofs.Store.Saving
/-!
# What a run leaves on disk

A run that does not edit leaves everything as it was, and so does one that has nothing to do. What a run
that fails leaves is one of four things (`Leaves`): only publishing writes at all, and what it leaves when it
fails is known (`FileTree.left_of_replace_error`). The fourth is the one that changes the store. The set was
stored, and then the output did not take the words that say so. `run_keeps_files` says this of the program,
whatever the machine refuses.
-/

namespace ToolSites.CommandLine

open Environment

variable {o : Options} {env : Environment} {files : FileTree} {events : List Event}

/-! ## Saying so -/

theorem files_printing [Host] (exit : Nat) (files : FileTree) (texts : List String) (events : List Event) :
    (printing exit files texts events).files = files := by
  unfold printing
  split <;> rfl

theorem files_done [Host] (files : FileTree) (output : String) (events : List Event) :
    (done files output events).files = files := files_printing ..

/-- What went well does so exactly if it is printed, and else that is the failure. -/
theorem exit_done [Host] (files : FileTree) (output : String) (events : List Event) :
    ((done files output events).exit = 0 ↔ Host.prints output = true) ∧
      ((done files output events).exit ≠ 0 → (done files output events).failure = some .unprinted) := by
  unfold done printing
  rw [List.all_cons, List.all_nil, Bool.and_true]
  split
  · next hprints => exact ⟨iff_of_true rfl hprints, fun h => absurd rfl h⟩
  · next hprints => exact ⟨iff_of_false Nat.one_ne_zero hprints, fun _ => rfl⟩

theorem files_failed [Host] (o : Options) (files : FileTree) (events : List Event) (e : Error) :
    (failed o files events e).files = files := by
  unfold failed
  split
  · exact files_printing ..
  · rfl

theorem files_printTable [Host] (o : Options) (files : FileTree) (table : Console.Table) (after : List String)
    (events : List Event) : (printTable o files table after events).files = files := by
  unfold printTable
  split
  · exact files_printing ..
  · rfl

/-! ## Commands -/

/-- A command that does not edit changes nothing. -/
theorem perform_files_of_reads [Host] {command : Command} (h : command.edits = false) :
    (perform o env files events command).files = files := by
  unfold perform
  cases command with
  | resolve node key =>
    dsimp only
    split
    · exact files_done ..
    · exact files_failed ..
  | installations node =>
    dsimp only
    split
    · exact files_printTable ..
    · exact files_failed ..
  | check =>
    dsimp only
    split
    · exact files_done ..
    · exact files_printing ..
  | list node =>
    dsimp only
    split
    · exact files_done ..
    · exact files_printTable ..
    · exact files_failed ..
  | set | unset | clear => cases h

/-- What a run that fails leaves of an edit. -/
inductive Leaves [Host] (env : Environment) (files left : FileTree) (failure : Option Error) : Prop
  /-- Everything is as it was. -/
  | unchanged : left = files → Leaves env files left failure
  /-- Directories above the store were made, where it could not be written. -/
  | prepared {path} : env.storePath = some path → left = files.prepared path → Leaves env files left failure
  /-- There is a file beside the store, too, which is refused to be removed. -/
  | beside {path temporary} : env.storePath = some path → files.LeftBeside left path temporary →
      Leaves env files left failure
  /-- The set was published, and the output did not take the words that say so. -/
  | unsaid {node set after message} : env.publish files node set = (.ok (), after, left) →
      Host.prints message = false → failure = some .unprinted → Leaves env files left failure

theorem publishing_leaves [Host] {node : String} {set : OverrideSet} {message : String}
    (h : (publishing o env files events node set message).exit ≠ 0) :
    Leaves env files (publishing o env files events node set message).files
      (publishing o env files events node set message).failure := by
  unfold publishing at h ⊢
  rcases hp : env.publish files node set with ⟨e | _, after, left⟩
  · rw [hp] at h
    dsimp only
    rw [files_failed]
    rcases publish_cases hp with ⟨-, -, -, hleft⟩ | ⟨-, -, -, -, hleft⟩ | ⟨-, -, path, hpath, hsave⟩
    · exact .unchanged hleft
    · exact .unchanged hleft
    · rcases Store.left_of_save_error hsave with hleft | ⟨temporary, hleft⟩
      · exact .prepared hpath hleft
      · exact .beside hpath hleft
  · rw [hp] at h
    dsimp only at h ⊢
    rw [files_done]
    obtain ⟨hexit, hfailure⟩ := exit_done left (report o .ok message) (events ++ env.publishEvents files node set)
    exact .unsaid hp (Bool.eq_false_iff.2 fun hprints => h (hexit.2 hprints)) (hfailure h)

/-- What edits gets to publishing, or ends before it. -/
theorem perform_leaves [Host] {command : Command} (h : (perform o env files events command).exit ≠ 0) :
    Leaves env files (perform o env files events command).files
      (perform o env files events command).failure := by
  cases command with
  | set node key home =>
    unfold perform at h ⊢
    dsimp only at h ⊢
    split at h
    · exact publishing_leaves h
    · exact .unchanged (files_failed ..)
  | unset node key =>
    unfold perform at h ⊢
    dsimp only at h ⊢
    split at h
    · exact publishing_leaves h
    · exact .unchanged (files_done ..)
    · exact .unchanged (files_failed ..)
  | clear node => exact publishing_leaves h
  | resolve | installations | check | list => exact .unchanged (perform_files_of_reads rfl)

/-- No file is changed or removed, what could be read reads the same, and a file that is new is one that the
machine refuses to remove. -/
structure KeepsFiles [Host] (files left : FileTree) : Prop where
  file : ∀ place bytes, files.find? place = some (.file bytes) → left.find? place = some (.file bytes)
  new : ∀ place bytes, left.find? place = some (.file bytes) → files.find? place = some (.file bytes) ∨
    files.find? place = none ∧ Host.refuses .remove place ≠ none
  read : ∀ path bytes, files.read path = .ok bytes → left.read path = .ok bytes

/-- Directories that are made change no file. -/
theorem keepsFiles_of_extends [Host] {left : FileTree} (h : files.Extends left) : KeepsFiles files left where
  file place bytes := (h.file_iff place bytes).2
  new place bytes hfile := .inl ((h.file_iff place bytes).1 hfile)
  read _ _ := h.read

theorem keepsFiles_of_leftBeside [Host] {left : FileTree} {path : Path} {temporary : Place}
    (h : files.LeftBeside left path temporary) : KeepsFiles files left := by
  obtain ⟨hbefore, -⟩ := h.spared
  obtain ⟨ht, hrefused, written, rfl⟩ := h
  obtain ⟨hne, hfree⟩ := FileTree.temporaryPlace_free ht
  have hprepared := keepsFiles_of_extends (files.prepared_extends path)
  have hput : ∀ {place entry}, (files.prepared path).find? place = some entry →
      ((files.prepared path).put temporary (.file written)).find? place = some entry :=
    FileTree.find?_put_of_some hne hfree
  refine ⟨fun place bytes h => hput (hprepared.file place bytes h), fun place bytes h => ?_,
    fun other bytes h => ?_⟩
  · rw [FileTree.find?_put _ hne] at h
    split at h
    · next hplace => exact .inr (hplace ▸ ⟨hbefore, hrefused⟩)
    · exact hprepared.new place bytes h
  · obtain ⟨hencodes, place, hl, hf, hgranted⟩ := FileTree.read_eq_ok.1 (hprepared.read other bytes h)
    have hcurrent : ((files.prepared path).put temporary (.file written)).current =
        (files.prepared path).current := rfl
    exact FileTree.read_eq_ok.2
      ⟨hencodes, place, FileTree.locate_mono hcurrent (fun _ => hput) hl, hput hf, hgranted⟩

/-- All that a failure changes of files is what was published before the output did not take the words. -/
theorem Leaves.keepsFiles [Host] {left : FileTree} {failure : Option Error} (h : Leaves env files left failure)
    (hsaid : failure ≠ some .unprinted) : KeepsFiles files left := by
  cases h with
  | unchanged hleft =>
    rw [hleft]
    exact keepsFiles_of_extends (.refl files)
  | prepared _ hleft =>
    rw [hleft]
    exact keepsFiles_of_extends (files.prepared_extends _)
  | beside _ hleft => exact keepsFiles_of_leftBeside hleft
  | unsaid _ _ hfailure => exact absurd hfailure hsaid

theorem setWithout_eq_none {node key : String} : setWithout env node key = .ok none ↔
    (∃ n, env.nodes.nodes.find? node = some n) ∧
      key ∉ Entries.names ((pairsAt env.nodes.overrides node).getD []) := by
  unfold setWithout
  simp only [map_eq_ok, editedSet_eq_ok, and_assoc, exists_and_left, exists_eq_left']
  refine and_congr_right fun _ => ?_
  unfold pairsAt
  cases env.nodes.overrides.find? node with
  | none => exact iff_of_true rfl List.not_mem_nil
  | some set =>
    rw [Option.bind_some, Option.map_some, Option.getD_some, ← OverrideSet.keys_eq_names, ← List.contains_iff_mem]
    split
    · next hmem => exact iff_of_false nofun fun hnot => hnot hmem
    · next hnot => exact iff_of_true rfl hnot

/-! ## Runs -/

variable {i : Invocation} {vars : Variables}

theorem run_files_of_reads [Host] (h : i.command.edits = false) : (i.run files vars).files = files := by
  unfold Invocation.run
  dsimp only
  split
  · exact files_failed ..
  · split
    · exact files_failed ..
    · exact perform_files_of_reads h

theorem run_leaves [Host] (h : (i.run files vars).exit ≠ 0) :
    (i.run files vars).files = files ∨ ∃ env, Environment.load files vars i.options.config = .ok env ∧
      Leaves env files (i.run files vars).files (i.run files vars).failure := by
  unfold Invocation.run at h ⊢
  dsimp only at h ⊢
  split at h
  · exact .inl (files_failed ..)
  next env hload =>
  split at h
  · next hnone =>
    rw [if_pos hnone]
    exact .inl (files_failed ..)
  next hsome =>
  rw [if_neg hsome]
  exact .inr ⟨env, hload, perform_leaves h⟩

/-- What is said where there is nothing to remove. -/
def nothingToRemove (o : Options) (node key : String) : String :=
  report o .warn ("No tool location for " ++ key ++ " on " ++ node ++ ".")

/-- There is nothing to remove. -/
theorem run_unset_of_missing [Host] {node key : String} (hload : Environment.load files vars o.config = .ok env)
    (hstore : env.storePath ≠ none) (hmissing : setWithout env node key = .ok none) :
    let outcome := (⟨o, .unset node key⟩ : Invocation).run files vars
    (outcome.exit = 0 ↔ Host.prints (nothingToRemove o node key) = true) ∧ outcome.files = files := by
  unfold Invocation.run
  dsimp only
  rw [hload]
  dsimp only
  have hsome : env.storePath.isNone = false := by
    rw [Option.isNone_eq_false_iff, Option.isSome_iff_ne_none]
    exact hstore
  rw [hsome, Bool.and_false, if_neg Bool.false_ne_true]
  unfold perform
  dsimp only
  rw [hmissing]
  exact ⟨(exit_done ..).1, files_done ..⟩

theorem run_of_refusal [Host] {args : List String} {refusal : Refusal} (h : parse args = .error refusal) :
    (run args files vars).files = files := by
  unfold run
  rw [h]
  cases refusal with
  | help =>
    dsimp only
    split <;> rfl
  | usage => rfl

theorem run_of_parse [Host] {args : List String} (h : parse args = .ok i) :
    (run args files vars).exit = (i.run files vars).exit ∧ (run args files vars).files = (i.run files vars).files ∧
      (run args files vars).failure = (i.run files vars).failure := by
  rw [run_eq_of_parse h]
  exact ⟨rfl, rfl, rfl⟩

theorem failing_run_leaves [Host] {args : List String} (h : (run args files vars).exit ≠ 0) :
    (run args files vars).files = files ∨ ∃ i env, parse args = .ok i ∧ i.command.edits = true ∧
      Environment.load files vars i.options.config = .ok env ∧
      Leaves env files (run args files vars).files (run args files vars).failure := by
  cases hargs : parse args with
  | error refusal => exact .inl (run_of_refusal hargs)
  | ok i =>
    obtain ⟨hexit, hfiles, hfailure⟩ := run_of_parse hargs
    rw [hexit] at h
    rw [hfiles, hfailure]
    cases hedits : i.command.edits with
    | false => exact .inl (run_files_of_reads hedits)
    | true =>
      rcases run_leaves h with hunchanged | ⟨env, hload, hleft⟩
      · exact .inl hunchanged
      · exact .inr ⟨i, env, rfl, hedits, hload, hleft⟩

/-- Whatever the arguments, and whatever the machine refuses: help, arguments that make no sense and commands
that do not edit leave everything as it was. A run that does not end well leaves one of four things, and unless
the output did not take what it printed it changes and removes no file, what could be read reads the same,
and a file that it adds is one that the machine refuses to remove. Where a key is to be removed that a node
does not have, the run leaves everything as it was, and ends well exactly if it can say so. -/
theorem run_keeps_files [Host] (args : List String) (files : FileTree) (vars : Variables) :
    let result := run args files vars
    ((∀ i, parse args = .ok i → i.command.edits = false) → result.files = files) ∧
    (result.exit ≠ 0 → result.files = files ∨ ∃ i env, parse args = .ok i ∧ i.command.edits = true ∧
      Environment.load files vars i.options.config = .ok env ∧
      Leaves env files result.files result.failure) ∧
    (result.exit ≠ 0 → result.failure ≠ some .unprinted → KeepsFiles files result.files) ∧
    ∀ o node key env, parse args = .ok ⟨o, .unset node key⟩ → Environment.load files vars o.config = .ok env →
      env.storePath ≠ none → (∃ n, env.nodes.nodes.find? node = some n) →
      key ∉ Entries.names ((pairsAt env.nodes.overrides node).getD []) →
      (result.exit = 0 ↔ Host.prints (nothingToRemove o node key) = true) ∧ result.files = files := by
  refine ⟨fun hreads => ?_, failing_run_leaves, fun hexit hsaid => ?_, ?_⟩
  · cases hargs : parse args with
    | error refusal => exact run_of_refusal hargs
    | ok i => rw [(run_of_parse hargs).2.1, run_files_of_reads (hreads i hargs)]
  · rcases failing_run_leaves hexit with hfiles | ⟨i, env, -, -, -, hleft⟩
    · rw [hfiles]
      exact keepsFiles_of_extends (.refl files)
    · exact hleft.keepsFiles hsaid
  · intro o node key env hargs hload hstore hknown hmissing
    obtain ⟨hexit, hfiles, -⟩ := run_of_parse hargs
    obtain ⟨hprints, hleft⟩ := run_unset_of_missing hload hstore (setWithout_eq_none.2 ⟨hknown, hmissing⟩)
    exact ⟨hexit ▸ hprints, hfiles.trans hleft⟩

/-- Runs that fail late. Where the output takes nothing, a set is stored before the run fails, and nothing to
remove is a failure, too. In a directory that only lets files be added, the new one beside the store stays. -/
theorem run_fails_late :
    let mute : Host := { Host.obliging with prints := fun _ => false }
    let adding : Host := { Host.obliging with
      refuses := fun act _ => if act = .rename ∨ act = .remove then some ⟨1, "Operation not permitted"⟩ else none }
    let files : FileTree := ⟨[], [(["c"], .file (Text.Utf8.encode "store='s'\nnodes.n=\x7b\x7d\n".toList))]⟩
    let edited := @run mute ["-c", "c", "overrides", "set", "n", "T@a", "h"] files fun _ => none
    let missing := @run mute ["-c", "c", "overrides", "unset", "n", "T@a"] files fun _ => none
    let refused := @run adding ["-c", "c", "overrides", "clear", "n"] files fun _ => none
    (edited.exit = 1 ∧ files.find? ["s"] = none ∧
      edited.files.find? ["s"] = some (.file (Text.Utf8.encode (Store.text (.ofList [
        ("n", ⟨[.unresolved ⟨"T", "a", by decide⟩ "h"]⟩)]))))) ∧
    missing.exit = 1 ∧
    (refused.exit = 1 ∧ files.find? [".s.00000000.tmp"] = none ∧
      refused.files.find? [".s.00000000.tmp"] ≠ none) := by
  decide +kernel

/-- The path of the store ends in two dots, where nothing can be written, and the directory before them is
missing: the run fails after it was made. -/
example :
    let files : FileTree := ⟨[], [(["c"], .file (Text.Utf8.encode "store='d/..'\nnodes.n=\x7b\x7d\n".toList))]⟩
    let result := run ["-c", "/c", "overrides", "clear", "n"] files fun _ => none
    result.exit = 1 ∧ files.find? ["d"] = none ∧ result.files.find? ["d"] = some .directory := by
  decide +kernel

end ToolSites.CommandLine
