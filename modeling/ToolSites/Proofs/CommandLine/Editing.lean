import ToolSites.CommandLine.Run
import ToolSites.Proofs.Environment.Reload
/-!
# What editing commands do to resolution

An editing command that ends well has published the edited set, or had nothing to do
(`edit_run`). The next invocation reads the same configuration and the store that was
written, so that resolving finds the edited pairs at the node and everything else as it
was: `edit_resolution`. This takes for granted that the store is not written over the
configuration (`StoreApart`), which no check of the program prevents.
-/

namespace ToolSites.CommandLine

open Environment

/-! ## Edits -/

/-- What an editing command is to do. -/
inductive Edit
  | set (node key home : String)
  | unset (node key : String)
  | clear (node : String)

namespace Edit

/-- The command. -/
def command : Edit → Command
  | set node key home => .set node key home
  | unset node key => .unset node key
  | clear node => .clear node

/-- The node whose set is edited. -/
def node : Edit → String
  | set node _ _ => node
  | unset node _ => node
  | clear node => node

/-- Whether the edit is about the key. -/
def touches : Edit → String → Bool
  | set _ key _, other => other = key
  | unset _ key, other => other = key
  | clear _, _ => true

/-- The home that the edit gives to the keys that it is about, instead of their default. -/
def home? : Edit → Option String
  | set _ _ home => some home
  | unset _ _ => none
  | clear _ => none

/-- The pairs of a set after the edit. -/
def apply : Edit → List (String × String) → List (String × String)
  | set _ key home, pairs => Entries.put key home pairs
  | unset _ key, pairs => pairs.filter fun pair => pair.1 != key
  | clear _, _ => []

theorem find?_apply (e : Edit) (pairs : List (String × String)) (key : String) :
    Entries.find? key (e.apply pairs) = if e.touches key then e.home? else Entries.find? key pairs := by
  cases e with
  | set node k home =>
    rw [apply, Entries.find?_put]
    simp [touches, home?]
  | unset node k =>
    rw [apply, Entries.find?_filter_ne]
    simp [touches, home?]
  | clear node => rfl

end Edit

/-! ## Runs -/

theorem run_eq_of_parse [Host] {args : List String} {i : Invocation} {files : FileTree} {vars : Variables}
    (h : parse args = .ok i) :
    run args files vars = ⟨(i.run files vars).exit, (i.run files vars).output,
      log i.options.verbose (i.run files vars).events, (i.run files vars).failure, (i.run files vars).files⟩ := by
  rw [run, h]

/-- A command that does not edit is done if the environment loads. -/
theorem run_of_reads [Host] {i : Invocation} {files : FileTree} {vars : Variables} {env : Environment}
    (hload : Environment.load files vars i.options.config = .ok env) (hreads : i.command.edits = false) :
    i.run files vars = perform i.options env files (loadEvents files vars i.options.config) i.command := by
  simp [Invocation.run, hload, hreads]

/-! ## Runs that end well -/

theorem exit_failed (o : Options) (files : FileTree) (events : List Event) (e : Error) :
    (failed o files events e).exit = 1 := by
  unfold failed
  split <;> rfl

theorem publishing_exit {o : Options} {env : Environment} {files : FileTree} {events : List Event}
    {node : String} {set : OverrideSet} {message : String}
    (h : (publishing o env files events node set message).exit = 0) :
    ∃ after, env.publish files node set =
      (.ok (), after, (publishing o env files events node set message).files) := by
  unfold publishing at h ⊢
  rcases hp : env.publish files node set with ⟨_ | _, after, left⟩
  · rw [hp] at h
    simp only [exit_failed] at h
    cases h
  · exact ⟨after, rfl⟩

/-- The edit was done: sets were published for the node if for any, and its pairs are the
edited ones. -/
structure Edited (env : Environment) (files : FileTree) (edit : Edit) (after : Environment)
    (left : FileTree) : Prop where
  known : ∃ node, env.nodes.nodes.find? edit.node = some node
  published : (after = env ∧ left = files) ∨ ∃ set, env.publish files edit.node set = (.ok (), after, left)
  pairs : (pairsAt after.nodes.overrides edit.node).getD [] =
    edit.apply ((pairsAt env.nodes.overrides edit.node).getD [])

variable {env after : Environment} {files left : FileTree} {edit : Edit}

theorem Edited.same (h : Edited env files edit after left) : SameParts env after := by
  rcases h.published with ⟨rfl, -⟩ | ⟨set, hpub⟩
  · exact .refl _
  · exact (publish_same hpub).1

/-- Other nodes keep their sets. -/
theorem Edited.pairs_other (h : Edited env files edit after left) {node : String} (hne : node ≠ edit.node) :
    pairsAt after.nodes.overrides node = pairsAt env.nodes.overrides node := by
  rcases h.published with ⟨rfl, -⟩ | ⟨set, hpub⟩
  · rfl
  · rcases publish_cases hpub with ⟨-, -, rfl, -⟩ | ⟨-, rfl, -⟩ | ⟨-, rfl, -⟩
    · rfl
    · rw [pairsAt_withSet, if_neg hne]
    · rw [pairsAt_withSet, if_neg hne]

/-- Where the edit is about a key on a node it decides the home, and elsewhere nothing has
changed. -/
theorem Edited.resolve_eq (h : Edited env files edit after left) {config : Config} {inlined : NodeSets}
    (p : Parts config env.types env.installations inlined) (node key : String) :
    after.resolve node key = if node = edit.node ∧ edit.touches key = true then
      (env.subject node key).map fun s => edit.home?.getD s.2.home else env.resolve node key := by
  have hsame := h.same
  have hsubject : after.subject node key = env.subject node key := by
    simp only [subject, installation, NodeRegistry.get, hsame.nodes, hsame.installations]
  have hafter : after.resolve node key = (env.subject node key).map fun s =>
      (Entries.find? key ((pairsAt after.nodes.overrides node).getD [])).getD s.2.home := by
    rw [← hsubject]
    exact Environment.resolve_eq (hsame.types.symm ▸ hsame.installations.symm ▸ p) node key
  rw [hafter]
  by_cases hn : node = edit.node
  · subst hn
    rw [h.pairs, edit.find?_apply]
    by_cases ht : edit.touches key = true
    · rw [if_pos ht, if_pos ⟨rfl, ht⟩]
    · rw [if_neg ht, if_neg fun hboth => ht hboth.2, Environment.resolve_eq p]
  · rw [h.pairs_other hn, if_neg fun hboth => hn hboth.1, Environment.resolve_eq p]

theorem editedSet_eq_ok {node : String} {current : Option OverrideSet} :
    editedSet env node = .ok current ↔
      (∃ n, env.nodes.nodes.find? node = some n) ∧ env.nodes.overrides.find? node = current := by
  rw [editedSet, map_eq_ok, NodeRegistry.get]
  rcases Option.eq_none_or_eq_some (env.nodes.nodes.find? node) with hn | ⟨n, hn⟩
  · simp [hn]
  · simp [hn, NodeRegistry.overridesFor, env.nodes.named hn]

/-- A set that was published for the node of the edit. -/
theorem edited_of_publish (edit : Edit) {set : OverrideSet}
    (h : env.publish files edit.node set = (.ok (), after, left))
    (hpairs : set.pairs = edit.apply ((pairsAt env.nodes.overrides edit.node).getD [])) :
    Edited env files edit after left := by
  have hdone : carries env.nodes edit.node = true ∧ after = env.withSet edit.node set := by
    rcases publish_cases h with ⟨-, he, -⟩ | ⟨hc, ha, -⟩ | ⟨hc, ha, -⟩
    · cases he
    · exact ⟨hc, ha⟩
    · exact ⟨hc, ha⟩
  refine ⟨?_, .inr ⟨set, h⟩, ?_⟩
  · rcases Option.eq_none_or_eq_some (env.nodes.nodes.find? edit.node) with hn | hn
    · simp [carries, hn] at hdone
    · exact hn
  · rw [hdone.2, pairsAt_withSet, if_pos rfl, Option.getD_some, hpairs]

theorem setWith_pairs {node key home : String} {set : OverrideSet}
    (h : setWith env node key home = .ok set) :
    set.pairs = Entries.put key home ((pairsAt env.nodes.overrides node).getD []) := by
  obtain ⟨location, hl, h⟩ := bind_eq_ok.1 h
  obtain ⟨current, hc, h⟩ := bind_eq_ok.1 h
  obtain ⟨hkey, hhome⟩ := Location.key_ofKey (mapError_eq_ok.1 hl)
  obtain ⟨-, hfind⟩ := editedSet_eq_ok.1 hc
  cases h
  rw [OverrideSet.pairs_insert, hkey, hhome, pairsAt, hfind]
  cases current <;> rfl

/-- Removing a key leaves the pairs with other keys; there is nothing to do if these are
all. -/
theorem setWithout_pairs {node key : String} {result : Option OverrideSet}
    (h : setWithout env node key = .ok result) :
    (∃ n, env.nodes.nodes.find? node = some n) ∧
      ((result.map OverrideSet.pairs).getD ((pairsAt env.nodes.overrides node).getD [])) =
        ((pairsAt env.nodes.overrides node).getD []).filter fun pair => pair.1 != key := by
  obtain ⟨current, hc, rfl⟩ := map_eq_ok.1 h
  obtain ⟨hknown, hfind⟩ := editedSet_eq_ok.1 hc
  refine ⟨hknown, ?_⟩
  rw [pairsAt, hfind]
  cases current with
  | none => rfl
  | some set =>
    rw [Option.bind_some, Option.map_some, Option.getD_some]
    split
    · exact set.pairs_erase key
    · next hk =>
      refine (List.filter_eq_self.2 fun pair hp => ?_).symm
      rw [bne_iff_ne]
      rintro rfl
      rw [OverrideSet.keys_eq_names, List.contains_iff_mem] at hk
      exact hk (List.mem_map_of_mem hp)

theorem perform_edit {o : Options} {events : List Event}
    (h : (perform o env files events edit.command).exit = 0) :
    ∃ after, Edited env files edit after (perform o env files events edit.command).files := by
  cases edit with
  | set node key home =>
    simp only [Edit.command, perform] at h ⊢
    cases hs : setWith env node key home with
    | error e => simp [hs, exit_failed] at h
    | ok set =>
      simp only [hs] at h ⊢
      obtain ⟨after, hafter⟩ := publishing_exit h
      exact ⟨after, edited_of_publish (.set node key home) hafter (setWith_pairs hs)⟩
  | unset node key =>
    simp only [Edit.command, perform] at h ⊢
    cases hs : setWithout env node key with
    | error e => simp [hs, exit_failed] at h
    | ok result =>
      obtain ⟨hknown, hpairs⟩ := setWithout_pairs hs
      cases result with
      | none =>
        simp only [hs] at h ⊢
        exact ⟨env, hknown, .inl ⟨rfl, rfl⟩, hpairs⟩
      | some set =>
        simp only [hs] at h ⊢
        obtain ⟨after, hafter⟩ := publishing_exit h
        exact ⟨after, edited_of_publish (.unset node key) hafter hpairs⟩
  | clear node =>
    obtain ⟨after, hafter⟩ := publishing_exit h
    exact ⟨after, edited_of_publish (.clear node) hafter rfl⟩

/-- An editing command that ends well has loaded an environment with a store and done the
edit. -/
theorem edit_run {o : Options} {vars : Variables}
    (h : ((⟨o, edit.command⟩ : Invocation).run files vars).exit = 0) :
    ∃ env path after, Environment.load files vars o.config = .ok env ∧ env.storePath = some path ∧
      Edited env files edit after ((⟨o, edit.command⟩ : Invocation).run files vars).files := by
  unfold Invocation.run at h ⊢
  cases hload : Environment.load files vars o.config with
  | error e => rw [hload] at h; simp [exit_failed] at h
  | ok env =>
    have hedits : edit.command.edits = true := by cases edit <;> rfl
    simp only [hload, hedits, Bool.true_and] at h ⊢
    cases hp : env.storePath with
    | none => simp [hp, exit_failed] at h
    | some path =>
      simp only [hp, Option.isNone_some, Bool.false_eq_true, if_false] at h ⊢
      obtain ⟨after, hafter⟩ := perform_edit h
      exact ⟨env, path, after, rfl, hp, hafter⟩

/-! ## The next invocation -/

/-- The store is not the configuration itself, wherever its path leads once the directories
that are missing on its way are made. -/
def StoreApart (files : FileTree) (path : Path) (config : Config) : Prop :=
  ∀ base written, baseOf files path = .ok base → config.store = some written →
    files.destination (base.join written) ≠ files.locate path

/-- After an edit the configuration loads, and the answers are those of the environment that
was edited. -/
theorem Edited.reload (h : Edited env files edit after left) {path base written : Path} {vars : Variables}
    {config : Config} (hconfig : Config.load files vars path = .ok config)
    (hbase : baseOf files path = .ok base) (hstore : config.store = some written)
    (hload : ofConfig files config base = .ok env) (hapart : StoreApart files path config) :
    ∃ again, Environment.load left vars path = .ok again ∧ Agrees again after := by
  have hpath : config.storeFrom base = some (base.join written) := by
    rw [Config.storeFrom, hstore]
    rfl
  rcases h.published with ⟨rfl, rfl⟩ | ⟨set, hpub⟩
  · obtain ⟨again, hagain, hagrees⟩ := Published.none.reload hpath hload
    exact ⟨again, load_eq_ok.2 ⟨config, base, hconfig, hbase, hagain⟩, hagrees⟩
  · obtain ⟨again, hagain, hagrees⟩ := (Published.publish .none hpub).reload hpath hload
    obtain ⟨types, installations, inlined, stored, -, -, rfl⟩ := ofConfig_arrange hpath hload
    -- the file that was replaced is the store, and not the configuration
    have hreplaced : ∃ bytes, files.replace (base.join written) bytes = (.ok (), left) := by
      rcases publish_cases hpub with ⟨-, he, -⟩ | ⟨-, -, hn, -⟩ | ⟨-, -, other, ho, hs⟩
      · cases he
      · cases hn
      · cases ho
        exact ⟨_, Store.replace_of_save hs⟩
    obtain ⟨bytes, hreplaced⟩ := hreplaced
    obtain ⟨found, hfound⟩ := Config.read_of_load hconfig
    obtain ⟨hl, hr⟩ := FileTree.read_replace_other hreplaced (hapart base written hbase hstore) hfound
    refine ⟨again, load_eq_ok.2 ⟨config, base, ?_, ?_, hagain⟩, hagrees⟩
    · rw [Config.load, hr]
      rw [Config.load, hfound] at hconfig
      exact hconfig
    · rw [baseOf, hl]
      exact hbase

/-! ## Resolution -/

/-- What resolving a key on a node shows: the exit code, the output, and the error that was
not reported. -/
def resolving (o : Options) (files : FileTree) (vars : Variables) (node key : String) :
    Nat × String × Option Error :=
  let outcome := (⟨o, .resolve node key⟩ : Invocation).run files vars
  (outcome.exit, outcome.output, outcome.failure)

/-- What is shown for a home that was found. -/
def homeShown (home : String) : Nat × String × Option Error := (0, Console.plain home ++ "\n", none)

/-- What is shown for an answer. -/
def answerShown (o : Options) : Except Error String → Nat × String × Option Error
  | .ok home => homeShown home
  | .error e => let outcome := failed o ⟨[], []⟩ [] e; (outcome.exit, outcome.output, outcome.failure)

theorem resolving_eq {o : Options} {vars : Variables} (h : Environment.load files vars o.config = .ok env)
    (node key : String) : resolving o files vars node key = answerShown o (env.resolve node key) := by
  unfold resolving
  rw [run_of_reads (i := ⟨o, .resolve node key⟩) h rfl]
  simp only [perform]
  cases env.resolve node key with
  | ok home => rfl
  | error e =>
    simp only [answerShown, failed]
    split <;> rfl

/-- An editing command that ends well does what it says and nothing else, unless the store
is the configuration itself: every installation that it is about resolves to the given home
on the node, or to its default home if none was given, and all other keys and nodes
resolve as they did. -/
theorem edit_resolution {o : Options} {vars : Variables} {config : Config}
    (hconfig : Config.load files vars o.config = .ok config) (hapart : StoreApart files o.config config)
    (hexit : ((⟨o, edit.command⟩ : Invocation).run files vars).exit = 0) :
    let left := ((⟨o, edit.command⟩ : Invocation).run files vars).files
    (∀ p : Options, p.config = o.config → ∀ spec ∈ config.installations,
      edit.touches (Key.textOf spec.typeId spec.name) = true →
      resolving p left vars edit.node (Key.textOf spec.typeId spec.name) =
        homeShown (edit.home?.getD spec.home)) ∧
      ∀ p : Options, p.config = o.config → ∀ node key, ¬ (node = edit.node ∧ edit.touches key = true) →
        resolving p left vars node key = resolving p files vars node key := by
  intro left
  obtain ⟨env, path, after, hload, hp, hedited⟩ := edit_run hexit
  obtain ⟨read, base, hread, hbase, hof⟩ := load_eq_ok.1 hload
  cases hconfig.symm.trans hread
  obtain ⟨stored, -, hassemble⟩ := ofConfig_eq_ok.1 hof
  obtain ⟨types, installations, inlined, hparts, henv⟩ := assemble_eq_ok.1 hassemble
  have htypes : env.types = types := henv ▸ rfl
  have hinstallations : env.installations = installations := henv ▸ rfl
  have hpath : config.storeFrom base = some path := (henv ▸ hp :)
  obtain ⟨written, hstore, rfl⟩ := Option.map_eq_some_iff.1 hpath
  obtain ⟨again, hagain, hagrees⟩ := hedited.reload hconfig hbase hstore hof hapart
  subst htypes hinstallations
  have hresolve : ∀ node key, again.resolve node key =
      if node = edit.node ∧ edit.touches key = true then
        (env.subject node key).map fun s => edit.home?.getD s.2.home else env.resolve node key :=
    fun node key => (resolve_congr hagrees node key).trans (hedited.resolve_eq hparts node key)
  -- `resolve` loads the environment anew, before the edit and after it
  constructor
  · intro p hoptions spec hspec htouched
    obtain ⟨node, hnode⟩ := hedited.known
    obtain ⟨i, hi, hhome⟩ := hparts.installation_of_spec (Config.valid_of_load hconfig) hspec
    rw [resolving_eq (hoptions ▸ hagain), hresolve, if_pos ⟨rfl, htouched⟩, subject_eq_ok.2 ⟨hnode, hi⟩]
    exact congrArg (fun home => homeShown (edit.home?.getD home)) hhome
  · intro p hoptions node key hother
    rw [resolving_eq (hoptions ▸ hagain), resolving_eq (hoptions ▸ hload), hresolve, if_neg hother]

/-- The home that is set for `T@a` on `n` is what it resolves to afterwards. -/
theorem edit_resolution_of_set :
    let files : FileTree := ⟨["w"], [(["w"], .directory), (["w", "c"], .file (Text.Utf8.encode
      "store='s'\n[tool_types.T]\n[[installations]]\ntype='T'\nname='a'\nhome='b'\n[nodes.n]\n".toList))]⟩
    let o : Options := { config := .parse "c" }
    let outcome := (⟨o, (Edit.set "n" "T@a" "h").command⟩ : Invocation).run files fun _ => none
    outcome.exit = 0 ∧ resolving o outcome.files (fun _ => none) "n" "T@a" = homeShown "h" := by
  intro files o outcome
  have hexit : outcome.exit = 0 := by decide +kernel
  have hconfig : Config.load files (fun _ => none) o.config = .ok ⟨some (.parse "s"), .ofList [("T", "")],
      [⟨"T", "a", "b"⟩], .ofList [("n", ⟨.agent, [], []⟩)]⟩ := toOption_eq_some.1 (by decide +kernel)
  have hbase : baseOf files o.config = .ok ⟨.slash, ["w"]⟩ := toOption_eq_some.1 (by decide +kernel)
  refine ⟨hexit, (edit_resolution hconfig ?_ hexit).1 o rfl _ (.head _) (by decide)⟩
  intro base written hb hw
  cases hbase.symm.trans hb
  cases hw
  have hne : (files.destination (.parse "/w/s")).toOption ≠ (files.locate (.parse "c")).toOption := by
    decide +kernel
  exact fun h => hne (congrArg Except.toOption h)

/-- Here the path of the store leads back to the configuration once the directory `x` is
made: setting a home ends well, and then nothing can be resolved. -/
theorem edit_overwrites_configuration :
    let files : FileTree := ⟨["w"], [(["w"], .directory), (["w", "c"], .file (Text.Utf8.encode
      "store='x/../c'\n[tool_types.T]\n[[installations]]\ntype='T'\nname='a'\nhome='b'\n[nodes.n]\n".toList))]⟩
    let o : Options := { config := .parse "c" }
    let outcome := (⟨o, .set "n" "T@a" "h"⟩ : Invocation).run files fun _ => none
    (∃ config, Config.load files (fun _ => none) o.config = .ok config ∧
      config.store = some (.parse "x/../c") ∧ ⟨"T", "a", "b"⟩ ∈ config.installations) ∧
      outcome.exit = 0 ∧ resolving o outcome.files (fun _ => none) "n" "T@a" ≠ homeShown "h" := by
  intro files o outcome
  have hconfig : Config.load files (fun _ => none) o.config = .ok ⟨some (.parse "x/../c"),
      .ofList [("T", "")], [⟨"T", "a", "b"⟩], .ofList [("n", ⟨.agent, [], []⟩)]⟩ := toOption_eq_some.1 (by decide +kernel)
  have hfails : (resolving o outcome.files (fun _ => none) "n" "T@a").1 = 1 := by decide +kernel
  refine ⟨⟨_, hconfig, rfl, .head _⟩, by decide +kernel, fun h => ?_⟩
  rw [h] at hfails
  cases hfails

end ToolSites.CommandLine
