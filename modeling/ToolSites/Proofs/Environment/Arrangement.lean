import ToolSites.Problems
import ToolSites.Proofs.Environment.Parts
/-!
# Where the sets of an environment come from

`Reflects` says that an environment holds the sets of a configuration and of a store
as `arrange` puts them, each in its place and the orphans in their order, whatever
types its sets carry. Two environments with the same parts that reflect the same sets
cannot be told apart by any question: that is `resolve_congr`, `describe_congr` and
`problems_congr`.
-/

namespace ToolSites

/-! ## Nodes that carry sets -/

namespace NodeRegistry

theorem nodes_ofList (nodes : List Node) :
    (ofList nodes).nodes = .ofList (nodes.map fun node => (node.name, node)) := by
  have hadd : ∀ r : NodeRegistry, (nodes.foldl add r).nodes =
      (nodes.map fun node => (node.name, node)).foldl (fun acc e => acc.insert e.1 e.2) r.nodes := by
    induction nodes with
    | nil => exact fun _ => rfl
    | cons node rest ih => exact fun r => ih (r.add node)
  exact hadd empty

theorem get_eq_ok {r : NodeRegistry} {name : String} {node : Node} :
    r.get name = .ok node ↔ r.nodes.find? name = some node := by
  unfold get
  cases r.nodes.find? name <;> simp

end NodeRegistry

namespace Environment

/-- The nodes are registered in the order in which they are configured. -/
theorem entries_declaredNodes (config : Config) : (declaredNodes config).nodes.entries =
    config.nodes.entries.map fun e => (e.1, ⟨e.1, e.2.kind, e.2.labels⟩) := by
  have hnodup : (Entries.names (config.nodes.entries.map fun e =>
      (e.1, (⟨e.1, e.2.kind, e.2.labels⟩ : Node)))).Nodup := by
    simpa [Entries.names, Function.comp_def] using config.nodes.nodup
  rw [declaredNodes, NodeRegistry.nodes_ofList, List.map_map]
  exact NameMap.entries_ofList hnodup

theorem find?_declaredNodes (config : Config) (name : String) :
    (declaredNodes config).nodes.find? name =
      (config.nodes.find? name).map fun spec => ⟨name, spec.kind, spec.labels⟩ := by
  rw [NameMap.find?, entries_declaredNodes]
  exact Entries.find?_map (fun name spec => (⟨name, spec.kind, spec.labels⟩ : Node)) config.nodes.entries name

/-- The declared agents are the nodes that can carry sets. -/
theorem carries_declaredNodes (config : Config) (name : String) :
    carries (declaredNodes config) name = true ↔
      ∃ spec, config.nodes.find? name = some spec ∧ spec.kind = .agent := by
  rw [carries, find?_declaredNodes]
  cases config.nodes.find? name with
  | none => simp
  | some spec => cases h : spec.kind <;> simp [NodeKind.carriesOverrides, h]

/-! ## Pairs -/

theorem pairsAt_unresolved (sets : NodeSets) (node : String) :
    pairsAt (sets.map OverrideSet.unresolved) node = pairsAt sets node := by
  rw [pairsAt, NameMap.find?_map, Option.map_map, pairsAt]
  congr 1
  funext set
  exact set.pairs_unresolved

theorem pairsAt_merge (m n : NodeSets) (node : String) :
    pairsAt (m.merge n) node = (pairsAt n node).or (pairsAt m node) := by
  rw [pairsAt, NameMap.find?_merge, pairsAt, pairsAt]
  cases n.find? node <;> rfl

theorem pairsAt_eq_none {sets : NodeSets} {node : String} :
    pairsAt sets node = none ↔ node ∉ sets.names := by
  rw [pairsAt, Option.map_eq_none_iff, NameMap.find?_eq_none_iff]

theorem mem_names_iff {sets : NodeSets} {node : String} :
    node ∈ sets.names ↔ pairsAt sets node ≠ none := by
  rw [ne_eq, pairsAt_eq_none, Classical.not_not]

/-! ## Places -/

section Arrange

variable (types : TypeRegistry) (installations : NameMap Installation) (nodes : NodeRegistry)
  (path : Option Path) (inlined stored : NodeSets) (node : String)

/-- At a node that can carry it stands the stored set, or else the configured one. -/
theorem find?_attached_arrange :
    (arrange types installations nodes path inlined stored).nodes.overrides.find? node =
      if carries nodes node then
        ((stored.find? node).or (inlined.find? node)).map fun set => set.resolved types
      else none := by
  unfold arrange
  rw [NameMap.find?_map, NameMap.find?_filter_name, NameMap.find?_merge]
  split <;> rfl

/-- Under any other name that set is an orphan, as it is. -/
theorem find?_orphaned_arrange :
    (arrange types installations nodes path inlined stored).orphaned.find? node =
      if carries nodes node then none else (stored.find? node).or (inlined.find? node) := by
  unfold arrange
  rw [NameMap.find?_filter_name _ fun name => !carries nodes name, NameMap.find?_merge]
  cases carries nodes node <;> rfl

/-- Of the sets at nodes, those that were stored are kept track of. -/
theorem find?_persisted_arrange :
    (arrange types installations nodes path inlined stored).persisted.find? node =
      if carries nodes node then (stored.find? node).map fun set => set.resolved types else none := by
  have hattached := find?_attached_arrange types installations nodes path inlined stored node
  unfold arrange at hattached ⊢
  rw [NameMap.find?_filter_name, hattached, NameMap.contains]
  cases stored.find? node <;> cases carries nodes node <;> rfl

end Arrange

/-! ## Reflection -/

/-- The environment holds the configured sets `inlined` and the sets `stored` as they
are arranged, whatever types they carry. -/
structure Reflects (env : Environment) (inlined stored : NodeSets) : Prop where
  attached : ∀ node, pairsAt env.nodes.overrides node =
    if carries env.nodes node then (pairsAt stored node).or (pairsAt inlined node) else none
  orphaned : ∀ node, pairsAt env.orphaned node =
    if carries env.nodes node then none else (pairsAt stored node).or (pairsAt inlined node)
  orphaned_names : env.orphaned.names =
    (inlined.merge stored).names.filter fun node => !carries env.nodes node
  persisted : ∀ node, pairsAt env.persisted node =
    if carries env.nodes node then pairsAt stored node else none

theorem arrange_reflects (types : TypeRegistry) (installations : NameMap Installation)
    (nodes : NodeRegistry) (path : Option Path) (inlined stored : NodeSets) :
    Reflects (arrange types installations nodes path inlined stored) inlined stored := by
  have hpairs : ∀ set : OverrideSet, (set.resolved types).pairs = set.pairs :=
    fun set => set.pairs_resolved types
  refine ⟨fun node => ?_, fun node => ?_, NameMap.names_filter _ _, fun node => ?_⟩
  · unfold pairsAt
    rw [find?_attached_arrange]
    show _ = if carries nodes node then _ else _
    cases carries nodes node <;> cases stored.find? node <;> cases inlined.find? node <;> simp [hpairs]
  · unfold pairsAt
    rw [find?_orphaned_arrange]
    show _ = if carries nodes node then _ else _
    cases carries nodes node <;> cases stored.find? node <;> rfl
  · unfold pairsAt
    rw [find?_persisted_arrange]
    show _ = if carries nodes node then _ else _
    cases carries nodes node <;> cases stored.find? node <;> simp [hpairs]

/-! ## Questions -/

/-- Two environments with the same parts, and with the same keys and homes at the same
nodes. -/
structure Agrees (env other : Environment) : Prop where
  types : env.types = other.types
  installations : env.installations = other.installations
  nodes : env.nodes.nodes = other.nodes.nodes
  attached : ∀ node, pairsAt env.nodes.overrides node = pairsAt other.nodes.overrides node
  orphaned_names : env.orphaned.names = other.orphaned.names

variable {env other : Environment}

/-- At each node neither has a set, or both have sets with the same pairs. -/
theorem Agrees.sets (h : Agrees env other) (node : Node) :
    (env.nodes.overridesFor node = none ∧ other.nodes.overridesFor node = none) ∨
      ∃ s t, env.nodes.overridesFor node = some s ∧ other.nodes.overridesFor node = some t ∧
        s.pairs = t.pairs := by
  have hp := h.attached node.name
  unfold pairsAt at hp
  unfold NodeRegistry.overridesFor
  cases hs : env.nodes.overrides.find? node.name with
  | none =>
    rw [hs] at hp
    exact .inl ⟨rfl, Option.map_eq_none_iff.1 hp.symm⟩
  | some s =>
    rw [hs] at hp
    obtain ⟨t, ht, he⟩ := Option.map_eq_some_iff.1 hp.symm
    exact .inr ⟨s, t, rfl, ht, he.symm⟩

theorem Agrees.get (h : Agrees env other) (node : String) : env.nodes.get node = other.nodes.get node := by
  rw [NodeRegistry.get, h.nodes, NodeRegistry.get]

theorem resolve_congr (h : Agrees env other) (node key : String) :
    env.resolve node key = other.resolve node key := by
  have hsubject : env.subject node key = other.subject node key := by
    rw [subject, subject, h.get, installation, installation, h.installations]
  rw [resolve, resolve, hsubject]
  congr 1
  funext ⟨n, i⟩
  show (overriddenHome _ _ _ _).getD _ = (overriddenHome _ _ _ _).getD _
  rw [overriddenHome, overriddenHome, h.types]
  rcases h.sets n with ⟨hs, ht⟩ | ⟨s, t, hs, ht, hst⟩
  · rw [hs, ht]
  · rw [hs, ht, Option.bind_some, Option.bind_some, OverrideSet.homeFor_congr hst]

theorem subject_eq_ok {node key : String} {n : Node} {i : Installation} :
    env.subject node key = .ok (n, i) ↔
      env.nodes.nodes.find? node = some n ∧ env.installations.find? key = some i := by
  unfold subject installation NodeRegistry.get
  cases hn : env.nodes.nodes.find? node <;> cases hi : env.installations.find? key <;>
    simp [bind, Except.bind, pure, Except.pure]

/-- Among the parts of a configuration, a key on a node resolves to the home of the first
pair with that key in the node's set, and else to the home of the installation. -/
theorem resolve_eq {config : Config} {inlined : NodeSets}
    (p : Parts config env.types env.installations inlined) (node key : String) :
    env.resolve node key = (env.subject node key).map fun s =>
      (Entries.find? key ((pairsAt env.nodes.overrides node).getD [])).getD s.2.home := by
  rw [resolve]
  cases hs : env.subject node key with
  | error e => rfl
  | ok s =>
    obtain ⟨n, i⟩ := s
    obtain ⟨hn, hi⟩ := subject_eq_ok.1 hs
    obtain ⟨hkey, htype, hfree⟩ := p.installation hi
    refine congrArg Except.ok ?_
    show (overriddenHome _ _ _ _).getD _ = _
    rw [overriddenHome, NodeRegistry.overridesFor, env.nodes.named hn, pairsAt]
    cases env.nodes.overrides.find? node with
    | none => rfl
    | some set =>
      rw [Option.bind_some, OverrideSet.homeFor_eq_find? htype hfree, hkey]
      rfl

theorem describe_congr (h : Agrees env other) (node : String) :
    env.describe node = other.describe node := by
  rw [describe, describe, h.get]
  congr 1
  funext n
  rw [h.types]
  rcases h.sets n with ⟨hs, ht⟩ | ⟨s, t, hs, ht, hst⟩
  · rw [hs, ht]
  · rw [hs, ht, Option.map_some, Option.map_some, OverrideSet.rows_congr hst]

end Environment

/-! ## Problems -/

theorem OverrideSet.entries_congr {β : Type} {f : Location → Option β}
    (hf : ∀ l m : Location, l.key = m.key → f l = f m) {s t : OverrideSet} (h : s.pairs = t.pairs) :
    s.locations.filterMap f = t.locations.filterMap f := by
  have hbare : ∀ s : OverrideSet, s.unresolved.locations.filterMap f = s.locations.filterMap f := by
    intro s
    rw [unresolved, List.filterMap_map]
    congr 1
    funext l
    exact hf _ _ rfl
  rw [← hbare s, unresolved_congr h, hbare]

namespace Environment

variable {env other : Environment}

theorem problems_congr (h : Agrees env other) : env.problems = other.problems := by
  have hentry : env.entryProblem? = other.entryProblem? := by
    funext node stale l
    rw [entryProblem?, entryProblem?, h.installations]
  have hnode : env.nodeProblems = other.nodeProblems := by
    funext n
    have hkey : ∀ (stale : List String) (l m : Location), l.key = m.key →
        other.entryProblem? n.name stale l = other.entryProblem? n.name stale m := by
      intro stale l m hlm
      unfold entryProblem? Location.typeId
      rw [hlm]
    unfold nodeProblems
    rw [hentry, h.types]
    rcases h.sets n with ⟨hs, ht⟩ | ⟨s, t, hs, ht, hst⟩
    · rw [hs, ht]
    · rw [hs, ht]
      dsimp only
      rw [OverrideSet.staleKeys_congr hst]
      exact OverrideSet.entries_congr (hkey _) hst
  rw [problems, problems, NodeRegistry.all, NodeRegistry.all, h.nodes, hnode, h.orphaned_names]

end Environment

end ToolSites
