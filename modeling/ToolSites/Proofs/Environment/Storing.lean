import ToolSites.Proofs.Environment.Publishing
/-!
# Which nodes the store names

`stored_names`: after any calls of `publish`, the store that the last one wrote names
the nodes that it named when the environment was loaded, the agents that some call was
for, and the controllers with locations in the configuration. The last are orphans from
the start, and orphans are written with everything else, so that a configured set comes
into the store without having been published.
-/

namespace ToolSites.Environment

/-! ## Calls -/

/-- The environment after calls for the nodes `targets`, whether they succeeded or
failed. Each call finds files of its own. -/
inductive Called (start : Environment) : List String → Environment → Prop
  | none : Called start [] start
  | publish {targets : List String} {env after : Environment} {files left : FileTree} {node : String}
      {set : OverrideSet} {result : Except Error Unit} : Called start targets env →
      env.publish files node set = (result, after, left) → Called start (targets ++ [node]) after

variable {start env : Environment} {targets : List String}

theorem Called.same (h : Called start targets env) : SameParts start env := by
  induction h with
  | none => exact .refl start
  | publish _ hpub ih => exact ih.trans (publish_same hpub).1

theorem Called.orphaned (h : Called start targets env) : env.orphaned = start.orphaned := by
  induction h with
  | none => rfl
  | publish _ hpub ih => exact (publish_same hpub).2.trans ih

/-- A call keeps track of what was kept track of, and of its node if that can carry a
set. -/
theorem mem_persisted_publish {after : Environment} {files left : FileTree} {node : String}
    {set : OverrideSet} {result : Except Error Unit} {path : Path} (hp : env.storePath = some path)
    (h : env.publish files node set = (result, after, left)) (name : String) :
    name ∈ after.persisted.names ↔
      name ∈ env.persisted.names ∨ (carries env.nodes name = true ∧ name = node) := by
  have hset : carries env.nodes node = true → (name ∈ (env.withSet node set).persisted.names ↔
      name ∈ env.persisted.names ∨ (carries env.nodes name = true ∧ name = node)) := by
    intro hc
    rw [mem_names_iff, pairsAt_persisted hp, mem_names_iff]
    by_cases hn : name = node
    · simp [hn, hc]
    · simp [hn]
  rcases publish_cases h with ⟨hc, -, rfl, -⟩ | ⟨hc, rfl, -⟩ | ⟨hc, rfl, -⟩
  · refine ⟨.inl, fun h => h.resolve_right ?_⟩
    rintro ⟨hc', rfl⟩
    rw [hc] at hc'
    cases hc'
  · exact hset hc
  · exact hset hc

theorem Called.mem_persisted (h : Called start targets env) {path : Path}
    (hp : start.storePath = some path) (name : String) :
    name ∈ env.persisted.names ↔
      name ∈ start.persisted.names ∨ (carries start.nodes name = true ∧ name ∈ targets) := by
  induction h with
  | none => simp
  | publish hcalls hpub ih =>
    rw [mem_persisted_publish (hcalls.same.storePath.trans hp) hpub, ih, hcalls.same.carries,
      List.mem_append, List.mem_singleton]
    grind

/-- What is stored next: what was stored, the nodes called for that can carry sets, and
the configured sets of those that cannot. -/
theorem Called.mem_toStore (h : Called start targets env) {path : Path}
    (hp : start.storePath = some path) {inlined stored : NodeSets} (hr : Reflects start inlined stored)
    (name : String) : name ∈ env.toStore.names ↔ name ∈ stored.names ∨
      (carries start.nodes name = true ∧ name ∈ targets) ∨
      (carries start.nodes name = false ∧ name ∈ inlined.names) := by
  have hpersisted := h.mem_persisted hp name
  rw [mem_names_iff, mem_names_iff, hr.persisted name] at hpersisted
  rw [mem_names_iff, pairsAt_toStore, ne_eq, Option.or_eq_none_iff, Classical.not_and_iff_not_or_not,
    ← ne_eq, hpersisted, h.orphaned, hr.orphaned name, mem_names_iff, mem_names_iff]
  cases hc : carries start.nodes name with
  | true => simp
  | false =>
    simp only [Bool.false_eq_true, if_false, false_and, ne_eq, not_true, false_or, true_and,
      Option.or_eq_none_iff, Classical.not_and_iff_not_or_not]

/-! ## Names -/

/-- Whether the configuration declares a node of the kind. -/
def Declares (config : Config) (kind : NodeKind) (name : String) : Prop :=
  ∃ spec, config.nodes.find? name = some spec ∧ spec.kind = kind

/-- Only declared nodes have configured sets, and those that are no agents are
controllers. -/
theorem declares_controller {config : Config} {name : String} (hn : ¬ Declares config .agent name)
    (hi : inlinePairs config name ≠ none) : Declares config .controller name := by
  cases hs : config.nodes.find? name with
  | none => simp [inlinePairs, hs, Option.filter] at hi
  | some spec =>
    cases hk : spec.kind with
    | controller => exact ⟨spec, hs, hk⟩
    | agent => exact absurd ⟨spec, hs, hk⟩ hn

theorem Declares.not_agent {config : Config} {name : String} (h : Declares config .controller name) :
    ¬ Declares config .agent name := by
  obtain ⟨spec, hs, hk⟩ := h
  rintro ⟨other, ho, hk'⟩
  rw [hs] at ho
  cases ho
  rw [hk] at hk'
  cases hk'

/-- The store names exactly the nodes that it named when the environment was loaded, the
agents that a call was for, and the controllers with configured locations. So no configured
set is stored unpublished if and only if each such controller was named or called for. -/
theorem stored_names {config : Config} {files found left : FileTree} {base path : Path}
    {stored : NodeSets} {start before after : Environment} {targets : List String} {node : String}
    {set : OverrideSet} (hpath : config.storeFrom base = some path)
    (hstored : Store.load files path = .ok stored)
    (hload : ofConfig files config base = .ok start) (hcalls : Called start targets before)
    (hpub : before.publish found node set = (.ok (), after, left)) :
    ∃ kept, Store.load left path = .ok kept ∧
      (∀ name, name ∈ kept.names ↔ name ∈ stored.names ∨
        (Declares config .agent name ∧ name ∈ targets ++ [node]) ∨
        (Declares config .controller name ∧ inlinePairs config name ≠ none)) ∧
      ((∀ name ∈ kept.names, name ∈ stored.names ∨ name ∈ targets ++ [node]) ↔
        ∀ name, Declares config .controller name → inlinePairs config name ≠ none →
          name ∈ stored.names ∨ name ∈ targets ++ [node]) := by
  obtain ⟨other, hother, hassemble⟩ := ofConfig_eq_ok.1 hload
  rw [hpath] at hother
  cases hstored.symm.trans hother
  obtain ⟨types, installations, inlined, hparts, rfl⟩ := assemble_eq_ok.1 hassemble
  have hr := arrange_reflects types installations (declaredNodes config) (config.storeFrom base)
    inlined stored
  -- the last call stores what all of them, itself included, have kept track of
  obtain ⟨-, -, hkept⟩ := publish_stored (hcalls.same.storePath.trans hpath) hpub
  have hnames : ∀ name, name ∈ (after.toStore.map OverrideSet.unresolved).names ↔
      name ∈ stored.names ∨ (Declares config .agent name ∧ name ∈ targets ++ [node]) ∨
        (Declares config .controller name ∧ inlinePairs config name ≠ none) := by
    intro name
    have hagent : carries (declaredNodes config) name = true ↔ Declares config .agent name :=
      carries_declaredNodes config name
    rw [NameMap.names_map, (Called.publish hcalls hpub).mem_toStore hpath hr, @mem_names_iff inlined,
      hparts.pairsAt_inlined]
    refine or_congr_right (or_congr (and_congr_left' hagent) (and_congr_left fun hi => ?_))
    exact ⟨fun hc => declares_controller (fun ha => Bool.false_ne_true (hc.symm.trans (hagent.2 ha))) hi,
      fun hd => Bool.eq_false_iff.2 (mt hagent.1 hd.not_agent)⟩
  refine ⟨_, hkept, hnames, ?_⟩
  constructor
  · exact fun h name hd hi => h name ((hnames name).2 (.inr (.inr ⟨hd, hi⟩)))
  · intro h name hn
    rcases (hnames name).1 hn with hs | ⟨-, ht⟩ | ⟨hd, hi⟩
    · exact .inl hs
    · exact .inr ht
    · exact h name hd hi

/-- The locations of the controller `c` are only in the configuration; the first set that
is published, for the agent `n`, brings them into the store. -/
theorem stored_names_controller :
    let files : FileTree := ⟨[], []⟩
    let config : Config := ⟨some (.parse "s"), .empty, [],
      .ofList [("c", ⟨.controller, [], [("T@a", "h")]⟩), ("n", ⟨.agent, [], []⟩)]⟩
    ∃ start after left kept, ofConfig files config ⟨.slash, []⟩ = .ok start ∧
      start.publish files "n" ⟨[]⟩ = (.ok (), after, left) ∧
      Store.load files (.parse "/s") = .ok .empty ∧ Store.load left (.parse "/s") = .ok kept ∧
      "c" ∈ kept.names := by
  intro files config
  have hrun : (ofConfig files config ⟨.slash, []⟩).toOption.map (fun env =>
      (env.publish files "n" ⟨[]⟩).1.toOption) = some (some ()) := by
    decide +kernel
  obtain ⟨start, hstart, hdone⟩ := Option.map_eq_some_iff.1 hrun
  have hpub : start.publish files "n" ⟨[]⟩ = (.ok (), (start.publish files "n" ⟨[]⟩).2) :=
    Prod.ext (toOption_eq_some.1 hdone) rfl
  have hempty : Store.load files (.parse "/s") = .ok .empty := toOption_eq_some.1 (by decide +kernel)
  obtain ⟨kept, hkept, hnames, -⟩ := stored_names (by decide +kernel) hempty
    (toOption_eq_some.1 hstart) .none hpub
  refine ⟨start, _, _, kept, toOption_eq_some.1 hstart, hpub, hempty, hkept, ?_⟩
  exact (hnames "c").2 (.inr (.inr ⟨⟨⟨.controller, [], [("T@a", "h")]⟩, by decide, rfl⟩, by decide⟩))

end ToolSites.Environment
