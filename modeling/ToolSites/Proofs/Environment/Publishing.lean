import ToolSites.Proofs.Environment.Arrangement
import ToolSites.Proofs.Store.RoundTrip
/-!
# What publishing changes

A set that a node can carry is attached and kept track of before the store is
written: `withSet` is the environment after that, and `publish_cases` tells the three
ways in which publishing ends. Hence a store that cannot be written leaves the set
behind, in the environment and in whatever is stored next (`failed_publish`). Over any
calls the orphans stay what they were when the environment was loaded, so that the
configured sets of controllers are stored with the first set that is published
(`stored_names`).
-/

namespace ToolSites.Environment

/-! ## Attaching -/

/-- The environment with a set at a node, attached and, if there is a store, kept track
of. -/
def withSet (env : Environment) (name : String) (set : OverrideSet) : Environment :=
  { env with
    nodes := { env.nodes with overrides := env.nodes.overrides.insert name (set.resolved env.types) }
    persisted :=
      if env.storePath.isSome then env.persisted.insert name (set.resolved env.types)
      else env.persisted }

/-- Why a node cannot be given a set. -/
def refusal (env : Environment) (name : String) : Error :=
  match env.nodes.nodes.find? name with
  | some node => .cannotCarry node
  | none => .unknownNode name

theorem attach_eq (env : Environment) (name : String) (set : OverrideSet) :
    env.attach name set =
      if carries env.nodes name then .ok (env.withSet name set) else .error (env.refusal name) := by
  rcases Option.eq_none_or_eq_some (env.nodes.nodes.find? name) with hf | ⟨node, hf⟩
  · simp [attach, NodeRegistry.get, carries, refusal, hf, bind, Except.bind]
  · have hname : node.name = name := env.nodes.named hf
    have hknown : env.nodes.contains name = true := by
      rw [NodeRegistry.contains, NameMap.contains, hf]
      rfl
    rcases hk : node.kind.carriesOverrides with _ | _
    · simp [attach, NodeRegistry.get, carries, refusal, hf, NodeRegistry.attach, hk, bind, Except.bind]
    · rcases hs : env.storePath with _ | path <;>
        simp [attach, NodeRegistry.get, carries, hf, NodeRegistry.attach, hk, hknown, hname, hs, withSet,
          bind, Except.bind, pure, Except.pure]

variable {env after : Environment} {files left : FileTree} {name : String} {set : OverrideSet}
  {result : Except Error Unit}

/-- Publishing is refused and changes nothing, or attaches the set: without a store
that is all, and with one the store is written, which may fail. -/
theorem publish_cases [Host] (h : env.publish files name set = (result, after, left)) :
    (carries env.nodes name = false ∧ result = .error (env.refusal name) ∧ after = env ∧ left = files) ∨
      (carries env.nodes name = true ∧ after = env.withSet name set ∧ env.storePath = none ∧
        result = .ok () ∧ left = files) ∨
      (carries env.nodes name = true ∧ after = env.withSet name set ∧
        ∃ path, env.storePath = some path ∧ Store.save files path after.toStore = (result, left)) := by
  rw [publish, attach_eq] at h
  cases hc : carries env.nodes name with
  | false =>
    rw [hc] at h
    cases h
    exact .inl ⟨rfl, rfl, rfl, rfl⟩
  | true =>
    rw [hc] at h
    simp only [if_true] at h
    cases hp : env.storePath with
    | none =>
      have hp' : (env.withSet name set).storePath = none := hp
      rw [hp'] at h
      cases h
      exact .inr (.inl ⟨rfl, rfl, rfl, rfl, rfl⟩)
    | some path =>
      have hp' : (env.withSet name set).storePath = some path := hp
      rw [hp'] at h
      cases h
      exact .inr (.inr ⟨rfl, rfl, path, rfl, rfl⟩)

/-! ## What stays -/

/-- The environments differ in their sets at most. -/
structure SameParts (env after : Environment) : Prop where
  types : after.types = env.types
  installations : after.installations = env.installations
  nodes : after.nodes.nodes = env.nodes.nodes
  storePath : after.storePath = env.storePath

theorem SameParts.refl (env : Environment) : SameParts env env := ⟨rfl, rfl, rfl, rfl⟩

theorem SameParts.trans {last : Environment} (h : SameParts env after) (h' : SameParts after last) :
    SameParts env last :=
  ⟨h'.types.trans h.types, h'.installations.trans h.installations, h'.nodes.trans h.nodes,
    h'.storePath.trans h.storePath⟩

theorem SameParts.carries (h : SameParts env after) (name : String) :
    carries after.nodes name = carries env.nodes name := by
  rw [Environment.carries, h.nodes, Environment.carries]

theorem withSet_same (env : Environment) (name : String) (set : OverrideSet) :
    SameParts env (env.withSet name set) := ⟨rfl, rfl, rfl, rfl⟩

theorem publish_same (h : env.publish files name set = (result, after, left)) :
    SameParts env after ∧ after.orphaned = env.orphaned := by
  rcases publish_cases h with ⟨-, -, rfl, -⟩ | ⟨-, rfl, -⟩ | ⟨-, rfl, -⟩
  · exact ⟨.refl _, rfl⟩
  · exact ⟨withSet_same _ _ _, rfl⟩
  · exact ⟨withSet_same _ _ _, rfl⟩

/-! ## The sets that are kept track of -/

theorem find?_attached_withSet (env : Environment) (name : String) (set : OverrideSet) (node : String) :
    (env.withSet name set).nodes.overrides.find? node =
      if node = name then some (set.resolved env.types) else env.nodes.overrides.find? node :=
  NameMap.find?_insert env.nodes.overrides name (set.resolved env.types) node

theorem find?_persisted_withSet (env : Environment) (name : String) (set : OverrideSet) (node : String) :
    (env.withSet name set).persisted.find? node =
      if env.storePath ≠ none ∧ node = name then some (set.resolved env.types)
      else env.persisted.find? node := by
  unfold withSet
  cases env.storePath with
  | none => simp
  | some path => simp [NameMap.find?_insert]

theorem pairsAt_withSet (env : Environment) (name : String) (set : OverrideSet) (node : String) :
    pairsAt (env.withSet name set).nodes.overrides node =
      if node = name then some set.pairs else pairsAt env.nodes.overrides node := by
  rw [pairsAt, find?_attached_withSet]
  split
  · rw [Option.map_some, OverrideSet.pairs_resolved]
  · rfl

theorem pairsAt_persisted {path : Path} (hp : env.storePath = some path)
    (name : String) (set : OverrideSet) (node : String) :
    pairsAt (env.withSet name set).persisted node =
      if node = name then some set.pairs else pairsAt env.persisted node := by
  have hstore : env.storePath ≠ none := hp ▸ Option.some_ne_none path
  rw [pairsAt, find?_persisted_withSet]
  by_cases hn : node = name
  · rw [if_pos ⟨hstore, hn⟩, if_pos hn, Option.map_some, OverrideSet.pairs_resolved]
  · rw [if_neg fun hboth => hn hboth.2, if_neg hn]
    rfl

theorem pairsAt_toStore (env : Environment) (node : String) :
    pairsAt env.toStore node = (pairsAt env.persisted node).or (pairsAt env.orphaned node) :=
  pairsAt_merge _ _ _

/-! ## Failing -/

/-- What would be written changes at the node that was given a set, and nowhere else. -/
theorem pairsAt_toStore_withSet {path : Path} (hp : env.storePath = some path)
    (name : String) (set : OverrideSet) (node : String) :
    pairsAt (env.withSet name set).toStore node =
      if node = name then some set.pairs else pairsAt env.toStore node := by
  have horphaned : (env.withSet name set).orphaned = env.orphaned := rfl
  rw [pairsAt_toStore, pairsAt_toStore, pairsAt_persisted hp, horphaned]
  split <;> rfl

theorem resolve_withSet (hc : carries env.nodes name = true)
    (set : OverrideSet) (key : String) : (env.withSet name set).resolve name key =
      (env.installation key).map fun i => (set.homeFor i env.types).getD i.home := by
  obtain ⟨node, hf⟩ : ∃ node, env.nodes.nodes.find? name = some node := by
    rcases Option.eq_none_or_eq_some (env.nodes.nodes.find? name) with hf | hf
    · simp [carries, hf] at hc
    · exact hf
  have hget : (env.withSet name set).nodes.get name = .ok node := NodeRegistry.get_eq_ok.2 hf
  have hset : (env.withSet name set).nodes.overridesFor node = some (set.resolved env.types) := by
    rw [NodeRegistry.overridesFor, env.nodes.named hf]
    exact (NameMap.find?_insert env.nodes.overrides name _ name).trans (if_pos rfl)
  have hhome : ∀ i : Installation, resolveHome (env.withSet name set).nodes env.types node i =
      (set.homeFor i env.types).getD i.home := by
    intro i
    rw [resolveHome, overriddenHome, hset, Option.bind_some,
      OverrideSet.homeFor_congr (set.pairs_resolved env.types)]
  simp only [resolve, subject, hget, bind, Except.bind]
  have hinst : (env.withSet name set).installation key = env.installation key := rfl
  rw [hinst]
  cases env.installation key with
  | error e => rfl
  | ok i => exact congrArg Except.ok (hhome i)

/-- Giving a node the set that it has changes nothing. -/
theorem withSet_eq_self_iff {path : Path} (hp : env.storePath = some path)
    (name : String) (set : OverrideSet) : env.withSet name set = env ↔
      env.nodes.overrides.find? name = some (set.resolved env.types) ∧
        env.persisted.find? name = some (set.resolved env.types) := by
  have hpersisted : (env.withSet name set).persisted =
      env.persisted.insert name (set.resolved env.types) := by
    simp only [withSet, hp, Option.isSome_some, if_true]
  constructor
  · intro h
    have hattached : env.nodes.overrides.insert name (set.resolved env.types) = env.nodes.overrides :=
      congrArg (fun env => env.nodes.overrides) h
    rw [h] at hpersisted
    exact ⟨by rw [← hattached, NameMap.find?_insert, if_pos rfl],
      by rw [hpersisted, NameMap.find?_insert, if_pos rfl]⟩
  · rintro ⟨hattached, hkept⟩
    rw [NameMap.insert_of_find? hkept] at hpersisted
    show ({ env with
      nodes := { env.nodes with overrides := env.nodes.overrides.insert name (set.resolved env.types) }
      persisted := (env.withSet name set).persisted } : Environment) = env
    rw [hpersisted, NameMap.insert_of_find? hattached]

/-- A store that was written holds the orphans and all sets that are kept track of. -/
theorem publish_stored {path : Path} (hp : env.storePath = some path)
    (h : env.publish files name set = (.ok (), after, left)) :
    carries env.nodes name = true ∧ after = env.withSet name set ∧
      Store.load left path = .ok (after.toStore.map OverrideSet.unresolved) := by
  rcases publish_cases h with ⟨-, he, -⟩ | ⟨-, -, hn, -⟩ | ⟨hc, hafter, other, ho, hs⟩
  · cases he
  · rw [hp] at hn; cases hn
  · rw [hp] at ho
    cases ho
    exact ⟨hc, hafter, Store.load_save hs⟩

/-- When publishing fails no file has changed. Either the node was refused and nothing
has changed at all, or the store could not be written, and the set is at the node all
the same: unless it was there before, the environment is not what it was, the set is
what keys on the node resolve by, and the next set that is published for another node
takes it into the store. -/
theorem failed_publish {env after : Environment} {files left : FileTree} {name : String}
    {set : OverrideSet} {e : Error} (h : env.publish files name set = (.error e, after, left)) :
    (∀ place bytes, left.find? place = some (.file bytes) ↔ files.find? place = some (.file bytes)) ∧
      (after = env ↔ carries env.nodes name = false ∨
        env.nodes.overrides.find? name = some (set.resolved env.types) ∧
          env.persisted.find? name = some (set.resolved env.types)) ∧
      (carries env.nodes name = true → after = env.withSet name set ∧
        (∀ key, after.resolve name key =
          (env.installation key).map fun i => (set.homeFor i env.types).getD i.home) ∧
        ∀ found other more last done, other ≠ name →
          after.publish found other more = (.ok (), last, done) →
          ∃ path sets, env.storePath = some path ∧ Store.load done path = .ok sets ∧
            pairsAt sets name = some set.pairs) := by
  rcases publish_cases h with ⟨hc, -, rfl, rfl⟩ | ⟨-, -, -, he, -⟩ | ⟨hc, hafter, path, hp, hs⟩
  · exact ⟨fun _ _ => .rfl, by simp [hc], by simp [hc]⟩
  · cases he
  · refine ⟨(Store.save_error hs).file_iff, ?_, fun _ => ⟨hafter, fun key => ?_, ?_⟩⟩
    · rw [hafter, withSet_eq_self_iff hp]
      simp [hc]
    · rw [hafter, resolve_withSet hc]
    · intro found other more last done hne hlater
      have hp' : after.storePath = some path := hafter ▸ hp
      obtain ⟨-, hlast, hload⟩ := publish_stored hp' hlater
      refine ⟨path, _, hp, hload, ?_⟩
      -- the other node takes nothing away from what is kept track of
      rw [pairsAt_unresolved, pairsAt_toStore, hlast, pairsAt_persisted hp', if_neg hne.symm, hafter,
        pairsAt_persisted hp, if_pos rfl]
      rfl

/-- A file stands where the directory of the store should be: publishing fails, and yet
`T@a` resolves to the home in the set that was not stored. -/
theorem failed_publish_attached :
    let files : FileTree := ⟨[], [(["sub"], .file [120])]⟩
    let config : Config := ⟨some (.parse "sub/s"), .ofList [("T", "")], [⟨"T", "a", "b"⟩],
      .ofList [("n", ⟨.agent, [], []⟩), ("m", ⟨.agent, [], []⟩)]⟩
    let set : OverrideSet := ⟨[.unresolved ⟨"T", "a", by decide⟩ "h"]⟩
    ∃ env e after left, ofConfig files config ⟨.slash, []⟩ = .ok env ∧
      env.publish files "n" set = (.error e, after, left) ∧
      env.resolve "n" "T@a" = .ok "b" ∧ after.resolve "n" "T@a" = .ok "h" := by
  intro files config set
  have hrun : (ofConfig files config ⟨.slash, []⟩).toOption.map (fun env =>
      (carries env.nodes "n", (env.publish files "n" set).1.toOption, (env.resolve "n" "T@a").toOption,
        ((env.installation "T@a").map fun i => (set.homeFor i env.types).getD i.home).toOption)) =
      some (true, none, some "b", some "h") := by
    decide +kernel
  obtain ⟨env, henv, hsaw⟩ := Option.map_eq_some_iff.1 hrun
  simp only [Prod.mk.injEq] at hsaw
  obtain ⟨hc, hfails, hbefore, hafter⟩ := hsaw
  rcases hp : env.publish files "n" set with ⟨_ | _, after, left⟩
  · obtain ⟨-, -, hleft⟩ := failed_publish hp
    obtain ⟨-, hresolve, -⟩ := hleft hc
    exact ⟨env, _, after, left, toOption_eq_some.1 henv, hp, toOption_eq_some.1 hbefore,
      (hresolve "T@a").trans (toOption_eq_some.1 hafter)⟩
  · rw [hp] at hfails; cases hfails

end ToolSites.Environment
