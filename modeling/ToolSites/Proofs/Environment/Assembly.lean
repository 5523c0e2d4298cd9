import ToolSites.Proofs.Environment.Storing
/-!
# Which set each node gets

A configuration that was read assembles with whatever its store holds, and every set that
was configured or stored has its place afterwards: `placed_sets`. A declared agent carries
the stored set, or else the configured one; under all other names the set is kept as an
orphan. What was stored is kept track of at the agents, so that each stored set is in one of
two maps and in one only.
-/

namespace ToolSites.Environment

/-- A set that the store holds for a name stays as it is, kept track of at a node that carries
it and else as an orphan, and not both. -/
theorem stored_in_one {env : Environment} {inlined stored : NodeSets} (hr : Reflects env inlined stored)
    {name : String} {set : OverrideSet} (hs : stored.find? name = some set) :
    (pairsAt env.persisted name = some set.pairs ∧ name ∉ env.orphaned.names) ∨
      (pairsAt env.orphaned name = some set.pairs ∧ name ∉ env.persisted.names) := by
  have hpairs : pairsAt stored name = some set.pairs := by rw [pairsAt, hs, Option.map_some]
  rw [← pairsAt_eq_none, ← pairsAt_eq_none, hr.persisted, hr.orphaned, hpairs]
  cases carries env.nodes name with
  | true => exact .inl ⟨rfl, rfl⟩
  | false => exact .inr ⟨rfl, rfl⟩

/-- A configuration that was read loads with any store that loads. Its sets `inlined` are made
of the pairs that it lists. Each declared agent has the stored set of its name, even if that
is empty, and else the configured one; it is no orphan, and it is kept track of if it was
stored. A name that is no declared agent has no set, and in particular no controller has one;
the stored set of such a name, or else the configured one, is an orphan. So each stored set is
kept in one of the two maps and not in the other, with its pairs in their order. -/
theorem placed_sets {document : Value} {config : Config} {files : FileTree} {base : Path}
    {stored : NodeSets} (hread : Config.ofDocument document = .ok config)
    (hstored : storedSets files (config.storeFrom base) = .ok stored) :
    ∃ (env : Environment) (inlined : NodeSets), ofConfig files config base = .ok env ∧
      (∀ name, (inlinePairs config name).map OverrideSet.ofPairs = (inlined.find? name).map .ok) ∧
      (∀ name, Declares config .agent name →
        env.nodes.overrides.find? name =
          ((stored.find? name).or (inlined.find? name)).map (fun set => set.resolved env.types) ∧
        env.orphaned.find? name = none ∧
        env.persisted.find? name = (stored.find? name).map fun set => set.resolved env.types) ∧
      (∀ name, ¬ Declares config .agent name →
        env.nodes.overrides.find? name = none ∧
        env.orphaned.find? name = (stored.find? name).or (inlined.find? name) ∧
        env.persisted.find? name = none) ∧
      (∀ name, Declares config .controller name → env.nodes.overrides.find? name = none) ∧
      ∀ name set, stored.find? name = some set →
        (pairsAt env.persisted name = some set.pairs ∧ name ∉ env.orphaned.names) ∨
          (pairsAt env.orphaned name = some set.pairs ∧ name ∉ env.persisted.names) := by
  obtain ⟨types, installations, inlined, hparts⟩ := parts_of_valid (Config.valid_of_ofDocument hread)
  have hload := ofConfig_eq_ok.2
    ⟨stored, hstored, assemble_eq_ok.2 ⟨types, installations, inlined, hparts, rfl⟩⟩
  have hnone : ∀ name, ¬ Declares config .agent name → carries (declaredNodes config) name = false :=
    fun name hn => Bool.eq_false_iff.2 (mt (carries_declaredNodes config name).1 hn)
  refine ⟨_, inlined, hload, hparts.find?_inlined, fun name hd => ?_, fun name hn => ?_, fun name hd => ?_,
    fun name set hs => stored_in_one (arrange_reflects _ _ _ _ _ _) hs⟩
  · have hc : carries (declaredNodes config) name = true := (carries_declaredNodes config name).2 hd
    rw [find?_attached_arrange, find?_orphaned_arrange, find?_persisted_arrange, if_pos hc, if_pos hc,
      if_pos hc]
    exact ⟨rfl, rfl, rfl⟩
  · rw [find?_attached_arrange, find?_orphaned_arrange, find?_persisted_arrange, hnone name hn]
    exact ⟨rfl, rfl, rfl⟩
  · rw [find?_attached_arrange, hnone name hd.not_agent]
    rfl

/-- The empty set that is stored for the agent `n` takes the place of the one that the
configuration lists; what is stored for `u`, which is not declared, is an orphan. -/
theorem placed_sets_masked :
    let entry (key home : String) : Value := .table [("key", .text key), ("home", .text home)]
    let document : Value := .table [("store", .text "s"), ("nodes", .table [
      ("n", .table [("tool_locations", .array [entry "T@a" "h"])])])]
    let config : Config := ⟨some (.parse "s"), .empty, [], .ofList [("n", ⟨.agent, [], [("T@a", "h")]⟩)]⟩
    let stored : NodeSets := .ofList [("n", ⟨[]⟩), ("u", ⟨[.unresolved ⟨"T", "a", by decide⟩ "g"]⟩)]
    let files : FileTree := ⟨[], [(["s"], .file (Text.Utf8.encode (Store.text stored)))]⟩
    let base : Path := ⟨.slash, []⟩
    Config.ofDocument document = .ok config ∧ storedSets files (config.storeFrom base) = .ok stored ∧
      ∃ env, ofConfig files config base = .ok env ∧ env.nodes.overrides.find? "n" = some ⟨[]⟩ ∧
        env.orphaned.find? "u" = stored.find? "u" ∧ env.orphaned.find? "n" = none := by
  intro entry document config stored files base
  have hread : Config.ofDocument document = .ok config := toOption_eq_some.1 (by decide +kernel)
  have hstored : storedSets files (config.storeFrom base) = .ok stored :=
    toOption_eq_some.1 (by decide +kernel)
  obtain ⟨env, inlined, hload, -, hagent, hother, -⟩ := placed_sets hread hstored
  obtain ⟨hattached, horphaned, -⟩ := hagent "n" ⟨⟨.agent, [], [("T@a", "h")]⟩, by decide, rfl⟩
  have hundeclared : ¬ Declares config .agent "u" := by
    rintro ⟨spec, hspec, -⟩
    cases hspec
  exact ⟨hread, hstored, env, hload, hattached, (hother "u" hundeclared).2.1, horphaned⟩

end ToolSites.Environment
