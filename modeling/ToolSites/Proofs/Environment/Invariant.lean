import ToolSites.Proofs.Environment.Storing
/-!
# What holds after any calls

An environment keeps sets in three maps: at the nodes, among those that were stored, and
among the orphans. `Sound` says how these go together. Assembling an environment makes it so
(`ofConfig_sound`), and a call keeps it so at whichever point it ends (`Sound.publish`). Why
it does takes one fact that nobody asks for: without a store nothing is kept track of, so
that a set which is attached and not kept track of takes the place of none that is.
`calls_keep` is what follows for the environment after any calls.
-/

namespace ToolSites.Environment

variable {config : Config} {start env after : Environment} {files left : FileTree} {name : String}
  {set : OverrideSet} {result : Except Error Unit}

/-- How the sets of an environment go together. -/
structure Sound (env : Environment) : Prop where
  /-- A set is attached to a node that can carry it. -/
  attached : ∀ name, env.nodes.overrides.find? name ≠ none → carries env.nodes name = true
  /-- A set that is kept track of is attached. -/
  persisted : ∀ name set, env.persisted.find? name = some set → env.nodes.overrides.find? name = some set
  /-- An orphan is under no name of such a node. -/
  orphaned : ∀ name, env.orphaned.find? name ≠ none → carries env.nodes name = false
  /-- Without a store nothing is kept track of. -/
  unstored : env.storePath = none → ∀ name, env.persisted.find? name = none

/-! ## Loading -/

theorem arrange_sound (types : TypeRegistry) (installations : NameMap Installation) (nodes : NodeRegistry)
    {path : Option Path} (inlined : NodeSets) {stored : NodeSets} (hpath : path = none → stored = .empty) :
    Sound (arrange types installations nodes path inlined stored) where
  attached name h := by
    rw [find?_attached_arrange] at h
    show carries nodes name = true
    cases hc : carries nodes name with
    | true => rfl
    | false => exact absurd (if_neg (Bool.eq_false_iff.1 hc)) h
  persisted name set h := by
    rw [find?_persisted_arrange] at h
    rw [find?_attached_arrange]
    split at h
    · next hc =>
      obtain ⟨s, hs, rfl⟩ := Option.map_eq_some_iff.1 h
      rw [if_pos hc, hs, Option.some_or, Option.map_some]
    · cases h
  orphaned name h := by
    rw [find?_orphaned_arrange] at h
    show carries nodes name = false
    cases hc : carries nodes name with
    | true => exact absurd (if_pos hc) h
    | false => rfl
  unstored hnone name := by
    have hstored : stored = .empty := hpath hnone
    rw [find?_persisted_arrange, hstored, NameMap.find?_empty, Option.map_none, ite_self]

theorem ofConfig_sound {base : Path} (h : ofConfig files config base = .ok env) : Sound env := by
  obtain ⟨stored, hstored, hassemble⟩ := ofConfig_eq_ok.1 h
  obtain ⟨types, installations, inlined, -, rfl⟩ := assemble_eq_ok.1 hassemble
  refine arrange_sound types installations _ inlined fun hnone => ?_
  rw [hnone] at hstored
  cases hstored
  rfl

/-! ## Publishing -/

theorem Sound.withSet (h : Sound env) (hc : carries env.nodes name = true) (set : OverrideSet) :
    Sound (env.withSet name set) where
  attached node hnode := by
    show carries env.nodes node = true
    rw [find?_attached_withSet] at hnode
    split at hnode
    · next hn => rw [hn, hc]
    · exact h.attached node hnode
  persisted node kept hkept := by
    rw [find?_persisted_withSet] at hkept
    rw [find?_attached_withSet]
    by_cases hn : node = name
    · rw [if_pos hn]
      by_cases hp : env.storePath = none
      · rw [if_neg fun hboth => hboth.1 hp, h.unstored hp] at hkept
        cases hkept
      · rwa [if_pos ⟨hp, hn⟩] at hkept
    · rw [if_neg fun hboth => hn hboth.2] at hkept
      rw [if_neg hn, h.persisted node kept hkept]
  orphaned := h.orphaned
  unstored hnone node := by
    have hp : env.storePath = none := hnone
    rw [find?_persisted_withSet, if_neg fun hboth => hboth.1 hp, h.unstored hp]

/-- A call keeps the sets in order, whether it is refused, attaches the set, or then fails to
write the store. -/
theorem Sound.publish (h : Sound env) (hpub : env.publish files name set = (result, after, left)) :
    Sound after := by
  rcases publish_cases hpub with ⟨-, -, rfl, -⟩ | ⟨hc, rfl, -⟩ | ⟨hc, rfl, -⟩
  · exact h
  · exact h.withSet hc set
  · exact h.withSet hc set

theorem Called.sound {targets : List String} (h : Called start targets env) (hs : Sound start) :
    Sound env := by
  induction h with
  | none => exact hs
  | publish _ hpub ih => exact ih.publish hpub

/-! ## Consequences -/

/-- What cannot carry a set has none. -/
theorem Sound.bare (h : Sound env) (hc : carries env.nodes name = false) :
    env.nodes.overrides.find? name = none := by
  cases hset : env.nodes.overrides.find? name with
  | none => rfl
  | some set =>
    have hcarries : carries env.nodes name = true := h.attached name (by rw [hset]; exact Option.some_ne_none set)
    rw [hc] at hcarries
    cases hcarries

theorem Sound.disjoint (h : Sound env) (ho : env.orphaned.find? name ≠ none) :
    env.persisted.find? name = none := by
  have hbare := h.bare (h.orphaned name ho)
  cases hp : env.persisted.find? name with
  | none => rfl
  | some set =>
    rw [h.persisted name set hp] at hbare
    cases hbare

/-- In what is written next no orphan and no set that is kept track of is hidden by another. -/
theorem Sound.find?_toStore (h : Sound env) (name : String) (set : OverrideSet) :
    env.toStore.find? name = some set ↔
      env.orphaned.find? name = some set ∨ env.persisted.find? name = some set := by
  rw [toStore, NameMap.find?_merge]
  cases ho : env.orphaned.find? name with
  | none => simp
  | some orphan =>
    have hp : env.persisted.find? name = none := h.disjoint (by rw [ho]; exact Option.some_ne_none orphan)
    simp [hp]

theorem Sound.resolve_controller (h : Sound env) {node : Node} (hn : env.nodes.nodes.find? name = some node)
    (hkind : node.kind = .controller) {key : String} {i : Installation}
    (hi : env.installations.find? key = some i) : env.resolve name key = .ok i.home := by
  have hcarries : carries env.nodes name = false := by
    rw [carries, hn]
    show node.kind.carriesOverrides = false
    rw [hkind]
    rfl
  have hbare : env.nodes.overridesFor node = none := by
    rw [NodeRegistry.overridesFor, env.nodes.named hn, h.bare hcarries]
  rw [resolve, subject_eq_ok.2 ⟨hn, hi⟩]
  show Except.ok (resolveHome env.nodes env.types node i) = _
  rw [resolveHome, overriddenHome, hbare]
  rfl

/-- After any calls, successful or not: sets are attached to declared agents and to no others,
so that on a declared controller each installation has its default home; no name is both an
orphan and kept track of, so that what is written next has all of both; what is kept track of
is attached as it is; and types, installations, nodes and orphans are those that were loaded. -/
theorem calls_keep {base : Path} {targets : List String} (hload : ofConfig files config base = .ok start)
    (hcalls : Called start targets env) :
    (∀ name, env.nodes.overrides.find? name ≠ none → Declares config .agent name) ∧
      (∀ name key i, Declares config .controller name → env.installations.find? key = some i →
        env.resolve name key = .ok i.home) ∧
      (∀ name ∈ env.orphaned.names, name ∉ env.persisted.names) ∧
      (∀ name set, env.toStore.find? name = some set ↔
        env.orphaned.find? name = some set ∨ env.persisted.find? name = some set) ∧
      (∀ name set, env.persisted.find? name = some set → env.nodes.overrides.find? name = some set) ∧
      env.types = start.types ∧ env.installations = start.installations ∧
      env.nodes.nodes = start.nodes.nodes ∧ env.orphaned = start.orphaned := by
  have hsound : Sound env := hcalls.sound (ofConfig_sound hload)
  have hsame := hcalls.same
  have hnodes : env.nodes.nodes = (declaredNodes config).nodes := hsame.nodes.trans (nodes_ofConfig hload)
  refine ⟨fun name hset => ?_, fun name key i hd hi => ?_, fun name ho => ?_, hsound.find?_toStore,
    hsound.persisted, hsame.types, hsame.installations, hsame.nodes, hcalls.orphaned⟩
  · have hc := hsound.attached name hset
    rw [carries, hnodes] at hc
    exact (carries_declaredNodes config name).1 hc
  · obtain ⟨spec, hspec, hkind⟩ := hd
    have hn : env.nodes.nodes.find? name = some ⟨name, spec.kind, spec.labels⟩ := by
      rw [hnodes, find?_declaredNodes, hspec]
      rfl
    exact hsound.resolve_controller hn hkind hi
  · rw [← NameMap.contains_iff, NameMap.contains, Option.isSome_iff_ne_none] at ho
    exact NameMap.find?_eq_none_iff.1 (hsound.disjoint ho)

/-- A file stands where the directory of the store should be. The set of `n` is attached and
cannot be stored, `c` is refused; `a` has its default home on `c`, whose configured set is an
orphan as before, and the set of `n` is kept track of as it is attached. -/
theorem calls_keep_failed :
    let files : FileTree := ⟨[], [(["sub"], .file [120])]⟩
    let config : Config := ⟨some (.parse "sub/s"), .ofList [("T", "")], [⟨"T", "a", "b"⟩],
      .ofList [("n", ⟨.agent, [], []⟩), ("c", ⟨.controller, [], [("T@a", "g")]⟩)]⟩
    let set : OverrideSet := ⟨[.unresolved ⟨"T", "a", by decide⟩ "h"]⟩
    ∃ start env after, ofConfig files config ⟨.slash, []⟩ = .ok start ∧
      (start.publish files "n" set).2.1 = env ∧ (start.publish files "n" set).1.toOption = none ∧
      (env.publish files "c" set).2.1 = after ∧ (env.publish files "c" set).1.toOption = none ∧
      after.resolve "c" "T@a" = .ok "b" ∧ after.orphaned = start.orphaned ∧
      after.persisted.find? "n" = some (set.resolved after.types) ∧
      after.nodes.overrides.find? "n" = some (set.resolved after.types) := by
  intro files config set
  let i : Installation := ⟨"a", .declared ⟨"T", "T", by decide, by decide⟩, "b"⟩
  have hrun : (ofConfig files config ⟨.slash, []⟩).toOption.map (fun start =>
      let first := start.publish files "n" set
      let second := first.2.1.publish files "c" set
      (first.1.toOption, second.1.toOption, second.2.1.installations.find? "T@a",
        decide (second.2.1.persisted.find? "n" = some (set.resolved second.2.1.types)))) =
      some (none, none, some i, true) := by
    decide +kernel
  obtain ⟨start, hstart, hsaw⟩ := Option.map_eq_some_iff.1 hrun
  simp only [Prod.mk.injEq, decide_eq_true_eq] at hsaw
  obtain ⟨hfirst, hsecond, hi, hkept⟩ := hsaw
  have hload := toOption_eq_some.1 hstart
  obtain ⟨-, hcontroller, -, -, hattached, -, -, -, horphaned⟩ :=
    calls_keep hload (.publish (.publish .none rfl) rfl)
  exact ⟨start, _, _, hload, rfl, hfirst, rfl, hsecond,
    hcontroller "c" "T@a" i ⟨⟨.controller, [], [("T@a", "g")]⟩, by decide, rfl⟩ hi, horphaned, hkept,
    hattached "n" _ hkept⟩

end ToolSites.Environment
