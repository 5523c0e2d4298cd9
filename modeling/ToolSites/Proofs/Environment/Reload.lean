import ToolSites.Proofs.Environment.Storing
/-!
# Memory and store

Each set that is published leaves the environment a reflection of what is then stored
(`publish_reflects`), and so does any run of them. Loading again therefore finds what
memory holds: `reload_eq_memory`. It also holds when the locations in the configuration
have changed in the meantime; they then count for the agents that are not stored.
-/

namespace ToolSites.Environment

variable {inlined stored : NodeSets}

/-! ## One step -/

/-- The names that are not carried are the same, and in the same order, whether the names
`orphaned` were kept with some others or not. -/
theorem orphaned_names_kept {m n persisted orphaned : List String} {carries : String → Bool}
    (horphaned : orphaned = (m ++ n.filter fun x => !m.contains x).filter fun x => !carries x)
    (hpersisted : ∀ x ∈ persisted, carries x = true) :
    (m ++ (orphaned ++ persisted.filter fun x => !orphaned.contains x).filter
      fun x => !m.contains x).filter (fun x => !carries x) = orphaned := by
  -- what is kept track of is carried, and what was an orphan has been counted
  have hnone : ((persisted.filter fun x => !orphaned.contains x).filter fun x => !m.contains x).filter
      (fun x => !carries x) = [] := by
    simp only [List.filter_filter, List.filter_eq_nil_iff]
    intro x hx
    simp [hpersisted x hx]
  have hold : ((m.filter fun x => !carries x).filter fun x => !m.contains x).filter
      (fun x => !carries x) = [] := by
    simp only [List.filter_filter, List.filter_eq_nil_iff]
    intro x hx
    simp [hx]
  rw [List.filter_append, List.filter_append, List.filter_append, hnone, List.append_nil, horphaned,
    List.filter_append, List.filter_append, List.filter_append, hold, List.nil_append]
  congr 1
  simp only [List.filter_filter]
  exact List.filter_congr fun x _ => by cases m.contains x <;> cases carries x <;> rfl

/-- What is stored when a set is published is what the environment then holds. -/
theorem withSet_reflects {env : Environment} {path : Path} {node : String}
    (hr : Reflects env inlined stored) (hp : env.storePath = some path)
    (hc : carries env.nodes node = true) (set : OverrideSet) :
    Reflects (env.withSet node set) inlined ((env.withSet node set).toStore.map OverrideSet.unresolved) := by
  have hsame := withSet_same env node set
  have hkept : ∀ name, pairsAt ((env.withSet node set).toStore.map OverrideSet.unresolved) name =
      if name = node then some set.pairs else (pairsAt env.persisted name).or (pairsAt env.orphaned name) := by
    intro name
    rw [pairsAt_unresolved, pairsAt_toStore_withSet hp, pairsAt_toStore]
  -- a node that carries nothing is not the one that was published for
  have hne : ∀ name, carries env.nodes name = false → name ≠ node := by
    rintro name hn rfl
    rw [hc] at hn
    cases hn
  refine ⟨fun name => ?_, fun name => ?_, ?_, fun name => ?_⟩
  -- attached: a set at the node, which is stored, and elsewhere as before
  · rw [pairsAt_withSet, hsame.carries, hkept, hr.attached, hr.persisted, hr.orphaned]
    cases hcarried : carries env.nodes name with
    | true => by_cases hn : name = node <;> simp [hn]
    | false => simp [hne name hcarried]
  -- orphaned: an orphan is stored as it is, and stays one
  · rw [hsame.carries, hkept, hr.persisted]
    show pairsAt env.orphaned name = _
    rw [hr.orphaned]
    cases hcarried : carries env.nodes name with
    | true => simp
    | false =>
      simp only [hne name hcarried, Bool.false_eq_true, if_false, Option.none_or]
      cases pairsAt stored name <;> cases pairsAt inlined name <;> rfl
  -- the order of the orphans is kept, though the store now starts with them
  · have hpersisted : ∀ name ∈ (env.withSet node set).persisted.names, carries env.nodes name = true := by
      intro name hm
      rw [mem_names_iff, pairsAt_persisted hp, hr.persisted] at hm
      by_cases hn : name = node
      · rw [hn, hc]
      · simp only [if_neg hn, ne_eq, ite_eq_right_iff, Classical.not_forall] at hm
        exact hm.1
    have horphaned : env.orphaned.names = (inlined.names ++ stored.names.filter fun name =>
        !inlined.names.contains name).filter fun name => !carries env.nodes name := by
      rw [hr.orphaned_names, NameMap.names_merge]
    rw [NameMap.names_merge, NameMap.names_map, toStore, NameMap.names_merge]
    exact (orphaned_names_kept horphaned hpersisted).symm
  · rw [pairsAt_persisted hp, hsame.carries, hkept, hr.persisted, hr.orphaned]
    cases hcarried : carries env.nodes name with
    | true => by_cases hn : name = node <;> simp [hn]
    | false => simp [hne name hcarried]

/-! ## Runs -/

/-- The environment and the files after sets were published for the nodes `targets`, all
of them successfully. -/
inductive Published (start : Environment) (files : FileTree) : List String → Environment → FileTree → Prop
  | none : Published start files [] start files
  | publish {targets : List String} {env after : Environment} {found left : FileTree} {node : String}
      {set : OverrideSet} : Published start files targets env found →
      env.publish found node set = (.ok (), after, left) →
      Published start files (targets ++ [node]) after left

variable {start env : Environment} {files left : FileTree} {targets : List String}

theorem Published.called (h : Published start files targets env left) : Called start targets env := by
  induction h with
  | none => exact .none
  | publish _ hpub ih => exact .publish ih hpub

/-- After any run the environment reflects what is stored. -/
theorem Published.reflects (h : Published start files targets env left) {path : Path}
    (hp : start.storePath = some path) (hstored : Store.load files path = .ok stored)
    (hr : Reflects start inlined stored) :
    ∃ kept, Store.load left path = .ok kept ∧ Reflects env inlined kept := by
  induction h with
  | none => exact ⟨stored, hstored, hr⟩
  | @publish targets env after found left node set hrun hpub ih =>
    obtain ⟨kept, -, hkept⟩ := ih
    have hp' : env.storePath = some path := hrun.called.same.storePath.trans hp
    obtain ⟨hc, rfl, hload⟩ := publish_stored hp' hpub
    exact ⟨_, hload, withSet_reflects hkept hp' hc set⟩

/-- The nodes with stored sets, after any run: those that had them, and the targets. -/
theorem Published.mem_stored (h : Published start files targets env left) {path : Path}
    (hp : start.storePath = some path) (hr : Reflects start inlined stored) {kept : NodeSets}
    (hkept : Reflects env inlined kept) {name : String} (hc : carries start.nodes name = true) :
    name ∈ kept.names ↔ name ∈ stored.names ∨ name ∈ targets := by
  have hm := h.called.mem_persisted hp name
  rw [mem_names_iff, mem_names_iff, hkept.persisted, hr.persisted, h.called.same.carries, hc, if_pos rfl,
    if_pos rfl, ← mem_names_iff, ← mem_names_iff] at hm
  simpa using hm

/-! ## Loading again -/

theorem Reflects.agrees {env other : Environment} (h : Reflects env inlined stored)
    (h' : Reflects other inlined stored) (hsame : SameParts env other) : Agrees env other where
  types := hsame.types.symm
  installations := hsame.installations.symm
  nodes := hsame.nodes.symm
  attached node := by rw [h.attached, h'.attached, hsame.carries]
  orphaned_names := by
    rw [h.orphaned_names, h'.orphaned_names]
    exact List.filter_congr fun node _ => by rw [hsame.carries]

/-- Loading takes the parts of the configuration and the sets that are stored. -/
theorem ofConfig_arrange {config : Config} {base path : Path} (hpath : config.storeFrom base = some path)
    (hload : ofConfig files config base = .ok env) : ∃ types installations inlined stored,
      Parts config types installations inlined ∧ Store.load files path = .ok stored ∧
        env = arrange types installations (declaredNodes config) (some path) inlined stored := by
  obtain ⟨stored, hstored, hassemble⟩ := ofConfig_eq_ok.1 hload
  rw [hpath] at hstored hassemble
  obtain ⟨types, installations, inlined, hparts, rfl⟩ := assemble_eq_ok.1 hassemble
  exact ⟨types, installations, inlined, stored, hparts, hstored, rfl⟩

theorem ofConfig_of_parts {config : Config} {base path : Path} {types : TypeRegistry}
    {installations : NameMap Installation} (hpath : config.storeFrom base = some path)
    (hparts : Parts config types installations inlined) (hstored : Store.load files path = .ok stored) :
    ofConfig files config base =
      .ok (arrange types installations (declaredNodes config) (some path) inlined stored) := by
  refine ofConfig_eq_ok.2 ⟨stored, by rw [hpath]; exact hstored, ?_⟩
  rw [hpath]
  exact assemble_eq_ok.2 ⟨types, installations, inlined, hparts, rfl⟩

/-- The same configuration loads again after any run, and the answers are those of memory. -/
theorem Published.reload (h : Published start files targets env left) {config : Config} {base path : Path}
    (hpath : config.storeFrom base = some path) (hload : ofConfig files config base = .ok start) :
    ∃ again, ofConfig left config base = .ok again ∧ Agrees again env := by
  obtain ⟨types, installations, inlined, stored, hparts, hstored, rfl⟩ := ofConfig_arrange hpath hload
  obtain ⟨kept, hkept, hreflects⟩ := h.reflects rfl hstored (arrange_reflects _ _ _ _ _ _)
  have hsame := h.called.same
  exact ⟨_, ofConfig_of_parts hpath hparts hkept,
    (arrange_reflects _ _ _ _ _ _).agrees hreflects
      ⟨hsame.types, hsame.installations, hsame.nodes, hsame.storePath⟩⟩

/-! ## Other locations -/

/-- The configuration with no locations at any node. -/
def withoutLocations (config : Config) : Config :=
  { config with nodes := config.nodes.map fun spec => { spec with locations := [] } }

variable {config other : Config}

theorem declaredNodes_withoutLocations (config : Config) :
    declaredNodes (withoutLocations config) = declaredNodes config := by
  simp [declaredNodes, withoutLocations, NameMap.map, Function.comp_def]

/-- After any run a configuration that differs from the first in the locations of nodes
at most loads, and what it lists counts for the agents that are not stored. -/
theorem Published.reload_other (h : Published start files targets env left) {base path : Path}
    (hvalid : other.Valid) (hother : withoutLocations other = withoutLocations config)
    (hpath : config.storeFrom base = some path) (hstored : Store.load files path = .ok stored)
    (hload : ofConfig files config base = .ok start) :
    ∃ again, ofConfig left other base = .ok again ∧
      ∀ name, Declares other .agent name → pairsAt again.nodes.overrides name =
        if name ∈ stored.names ∨ name ∈ targets then pairsAt env.nodes.overrides name
        else inlinePairs other name := by
  have hpath' : other.storeFrom base = some path := by
    have hsame : other.store = config.store := (congrArg Config.store hother :)
    rw [Config.storeFrom, hsame]
    exact hpath
  have hnodes : declaredNodes other = declaredNodes config := by
    rw [← declaredNodes_withoutLocations other, hother, declaredNodes_withoutLocations]
  obtain ⟨types, installations, inlined, read, hparts, hread, hstart⟩ := ofConfig_arrange hpath hload
  cases hstored.symm.trans hread
  obtain ⟨types', installations', inlined', hparts'⟩ := parts_of_valid hvalid
  have hr : Reflects start inlined stored := hstart ▸ arrange_reflects _ _ _ _ _ _
  have hp : start.storePath = some path := hstart ▸ rfl
  obtain ⟨kept, hkept, hreflects⟩ := h.reflects hp hstored hr
  have hagain := arrange_reflects types' installations' (declaredNodes other) (some path) inlined' kept
  refine ⟨_, ofConfig_of_parts hpath' hparts' hkept, fun name hd => ?_⟩
  have hc : carries (declaredNodes other) name = true := (carries_declaredNodes other name).2 hd
  have hc' : carries start.nodes name = true := by
    rw [hstart, ← hc, hnodes]
    rfl
  have hm := h.mem_stored hp hr hreflects hc'
  have hfound := (hagain.attached name).trans (if_pos hc)
  have hmemory := hreflects.attached name
  rw [h.called.same.carries, hc', if_pos rfl] at hmemory
  rw [hfound, hparts'.pairsAt_inlined, hmemory]
  by_cases hs : name ∈ stored.names ∨ name ∈ targets
  · obtain ⟨pairs, hpairs⟩ := Option.ne_none_iff_exists'.1 (mem_names_iff.1 (hm.2 hs))
    rw [if_pos hs, hpairs]
    rfl
  · rw [if_neg hs, pairsAt_eq_none.2 (mt hm.1 hs)]
    rfl

/-- A configuration that was read and has a store loads if the store does. Publish sets,
all of them successfully, and load a configuration that differs from the first in the
locations of nodes at most: it loads, every agent that was stored or published has the
set that it has in memory, and any other agent the one that the configuration lists, if
any. If the configuration is the same, so are the answers to all questions. -/
theorem reload_eq_memory {document changed : Value} {base written : Path}
    (hread : Config.ofDocument document = .ok config) (hchanged : Config.ofDocument changed = .ok other)
    (hother : withoutLocations other = withoutLocations config) (hstore : config.store = some written)
    (hstored : Store.load files (base.join written) = .ok stored) :
    ∃ start, ofConfig files config base = .ok start ∧
      ∀ targets env left, Published start files targets env left →
        ∃ again, ofConfig left other base = .ok again ∧
          (∀ name, Declares other .agent name → pairsAt again.nodes.overrides name =
            if name ∈ stored.names ∨ name ∈ targets then pairsAt env.nodes.overrides name
            else inlinePairs other name) ∧
          (other = config →
            (∀ node key, again.resolve node key = env.resolve node key) ∧
            (∀ node, again.describe node = env.describe node) ∧ again.problems = env.problems) := by
  have hpath : config.storeFrom base = some (base.join written) := by
    rw [Config.storeFrom, hstore]
    rfl
  obtain ⟨types, installations, inlined, hparts⟩ := parts_of_valid (Config.valid_of_ofDocument hread)
  have hload := ofConfig_of_parts hpath hparts hstored
  refine ⟨_, hload, fun targets env left hrun => ?_⟩
  obtain ⟨again, hagain, hsets⟩ :=
    hrun.reload_other (Config.valid_of_ofDocument hchanged) hother hpath hstored hload
  refine ⟨again, hagain, hsets, ?_⟩
  rintro rfl
  obtain ⟨same, hsame, hagrees⟩ := hrun.reload hpath hload
  cases hagain.symm.trans hsame
  exact ⟨resolve_congr hagrees, describe_congr hagrees, problems_congr hagrees⟩

/-- After an empty set was published for `m`, loading finds it there, and at `n` what the
configuration lists by now. -/
theorem reload_eq_memory_changed :
    let listing (home : String) : Value := .table [("store", .text "s"), ("nodes", .table [
      ("n", .table [("tool_locations", .array [.table [("key", .text "T@a"), ("home", .text home)]])]),
      ("m", .table [])])]
    let config (home : String) : Config := ⟨some (.parse "s"), .empty, [],
      .ofList [("n", ⟨.agent, [], [("T@a", home)]⟩), ("m", ⟨.agent, [], []⟩)]⟩
    let files : FileTree := ⟨[], []⟩
    let base : Path := ⟨.slash, []⟩
    Config.ofDocument (listing "h") = .ok (config "h") ∧ Config.ofDocument (listing "g") = .ok (config "g") ∧
      ∃ start env left again, ofConfig files (config "h") base = .ok start ∧
        start.publish files "m" ⟨[]⟩ = (.ok (), env, left) ∧ ofConfig left (config "g") base = .ok again ∧
        pairsAt again.nodes.overrides "n" = some [("T@a", "g")] ∧
        pairsAt again.nodes.overrides "m" = pairsAt env.nodes.overrides "m" := by
  intro listing config files base
  have hread : Config.ofDocument (listing "h") = .ok (config "h") := toOption_eq_some.1 (by decide +kernel)
  have hchanged : Config.ofDocument (listing "g") = .ok (config "g") := toOption_eq_some.1 (by decide +kernel)
  have hempty : Store.load files (base.join (.parse "s")) = .ok .empty :=
    toOption_eq_some.1 (by decide +kernel)
  obtain ⟨start, hload, hrun⟩ := reload_eq_memory hread hchanged (by decide +kernel) rfl hempty
  have hpublish : (ofConfig files (config "h") base).toOption.map (fun env =>
      (env.publish files "m" ⟨[]⟩).1.toOption) = some (some ()) := by
    decide +kernel
  rw [toOption_eq_some.2 hload, Option.map_some, Option.some.injEq] at hpublish
  have hdone : start.publish files "m" ⟨[]⟩ = (.ok (), (start.publish files "m" ⟨[]⟩).2) :=
    Prod.ext (toOption_eq_some.1 hpublish) rfl
  obtain ⟨again, hagain, hsets, -⟩ := hrun _ _ _ (.publish .none hdone)
  refine ⟨hread, hchanged, start, _, _, again, hload, hdone, hagain, ?_, ?_⟩
  · exact (hsets "n" ⟨⟨.agent, [], [("T@a", "g")]⟩, by decide, rfl⟩).trans ((if_neg (by decide)).trans rfl)
  · exact (hsets "m" ⟨⟨.agent, [], []⟩, by decide, rfl⟩).trans (if_pos (.inr (.head _)))

end ToolSites.Environment
