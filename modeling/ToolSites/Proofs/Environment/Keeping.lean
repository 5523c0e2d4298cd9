import ToolSites.Proofs.Environment.Reload
/-!
# What the store keeps

Publishing writes the whole store anew, out of the sets that are kept track of and the
orphans. One call changes the pairs of its node there and no others (`publish_toStore`), so
that after a run of calls a name has the pairs of the last set that was published for it, or
else those from before the run (`PublishedSets.pairsAt_toStore`). As to the store that was
there before, nothing is lost: `stored_sets_kept`.
-/

namespace ToolSites.Environment

variable {start env after : Environment} {files found left : FileTree} {path : Path}
  {calls : List (String × OverrideSet)} {node : String} {set : OverrideSet}

/-! ## One call -/

/-- A call changes the pairs of its node in the store, and no others. -/
theorem publish_toStore (hp : env.storePath = some path)
    (h : env.publish found node set = (.ok (), after, left)) (name : String) :
    pairsAt after.toStore name = if name = node then some set.pairs else pairsAt env.toStore name := by
  obtain ⟨-, rfl, -⟩ := publish_stored hp h
  exact pairsAt_toStore_withSet hp node set name

/-- Before any call the sets that were stored would be written as they are. -/
theorem Reflects.pairsAt_toStore {inlined stored : NodeSets} (hr : Reflects env inlined stored)
    {name : String} (hs : name ∈ stored.names) : pairsAt env.toStore name = pairsAt stored name := by
  obtain ⟨pairs, hpairs⟩ := Option.ne_none_iff_exists'.1 (mem_names_iff.1 hs)
  rw [Environment.pairsAt_toStore, hr.persisted, hr.orphaned, hpairs]
  cases carries env.nodes name <;> rfl

/-! ## Runs -/

/-- The environment and the files after the sets `calls` were published, each for the node
beside it and all of them successfully. -/
inductive PublishedSets (start : Environment) (files : FileTree) :
    List (String × OverrideSet) → Environment → FileTree → Prop
  | none : PublishedSets start files [] start files
  | publish {calls : List (String × OverrideSet)} {env after : Environment} {found left : FileTree}
      {node : String} {set : OverrideSet} : PublishedSets start files calls env found →
      env.publish found node set = (.ok (), after, left) →
      PublishedSets start files (calls ++ [(node, set)]) after left

theorem PublishedSets.published (h : PublishedSets start files calls env left) :
    Published start files (Entries.names calls) env left := by
  induction h with
  | none => exact .none
  | publish _ hpub ih =>
    rw [Entries.names, List.map_append]
    exact .publish ih hpub

theorem PublishedSets.storePath (h : PublishedSets start files calls env left)
    (hp : start.storePath = some path) : env.storePath = some path :=
  h.published.called.same.storePath.trans hp

/-- What would be written after a run: for each name the last set that was published for it,
and else what would have been written before. -/
theorem PublishedSets.pairsAt_toStore (h : PublishedSets start files calls env left)
    (hp : start.storePath = some path) (name : String) : pairsAt env.toStore name =
      ((Entries.find? name calls.reverse).map OverrideSet.pairs).or (pairsAt start.toStore name) := by
  induction h with
  | none => rfl
  | @publish calls env after found left node set hrun hpub ih =>
    rw [publish_toStore (hrun.storePath hp) hpub, ih, List.reverse_append, List.reverse_singleton,
      List.singleton_append, Entries.find?]
    by_cases hn : name = node
    · rw [if_pos hn, if_pos hn.symm]
      rfl
    · rw [if_neg hn, if_neg (Ne.symm hn)]

/-- What a run leaves in the store is what would be written next, at each name that was
stored or published for. -/
theorem PublishedSets.load (h : PublishedSets start files calls env left)
    (hp : start.storePath = some path) {inlined stored : NodeSets} (hr : Reflects start inlined stored)
    (hstored : Store.load files path = .ok stored) : ∃ kept, Store.load left path = .ok kept ∧
      ∀ name, name ∈ stored.names ∨ name ∈ Entries.names calls →
        pairsAt kept name = pairsAt env.toStore name := by
  cases h with
  | none =>
    refine ⟨stored, hstored, fun name hname => ?_⟩
    rcases hname with hs | hc
    · exact (hr.pairsAt_toStore hs).symm
    · cases hc
  | publish hrun hpub =>
    obtain ⟨-, -, hload⟩ := publish_stored (hrun.storePath hp) hpub
    exact ⟨_, hload, fun name _ => pairsAt_unresolved _ name⟩

theorem find?_last {before later : List (String × OverrideSet)} {name : String}
    (h : name ∉ Entries.names later) :
    Entries.find? name (before ++ (name, set) :: later).reverse = some set := by
  have hnone : Entries.find? name later.reverse = none :=
    Entries.find?_eq_none (by simpa [Entries.names] using h)
  rw [List.reverse_append, List.reverse_cons, List.append_assoc, Entries.find?_append, hnone,
    Option.none_or, List.singleton_append, Entries.find?, if_pos rfl]

/-- A configuration that was read and has a store loads if the store does. Publish sets, all
of them successfully, and load the store: it has, with their pairs in their order, every set
that it had at first for a name that was not published for, and for each other name the last
set that was published. -/
theorem stored_sets_kept {document : Value} {config : Config} {base written : Path} {stored : NodeSets}
    (hread : Config.ofDocument document = .ok config) (hstore : config.store = some written)
    (hstored : Store.load files (base.join written) = .ok stored) :
    ∃ start, ofConfig files config base = .ok start ∧
      ∀ calls env left, PublishedSets start files calls env left →
        ∃ kept, Store.load left (base.join written) = .ok kept ∧
          (∀ name set, stored.find? name = some set → name ∉ Entries.names calls →
            pairsAt kept name = some set.pairs) ∧
          (∀ before name set later, calls = before ++ (name, set) :: later →
            name ∉ Entries.names later → pairsAt kept name = some set.pairs) := by
  have hpath : config.storeFrom base = some (base.join written) := by
    rw [Config.storeFrom, hstore]
    rfl
  obtain ⟨types, installations, inlined, hparts⟩ := parts_of_valid (Config.valid_of_ofDocument hread)
  refine ⟨_, ofConfig_of_parts hpath hparts hstored, fun calls env left hrun => ?_⟩
  have hr := arrange_reflects types installations (declaredNodes config) (some (base.join written))
    inlined stored
  obtain ⟨kept, hkept, hpairs⟩ := hrun.load rfl hr hstored
  have hwritten := hrun.pairsAt_toStore rfl
  refine ⟨kept, hkept, fun name set hs hnot => ?_, ?_⟩
  · have hname : name ∈ stored.names := NameMap.contains_iff.1 (by rw [NameMap.contains, hs]; rfl)
    have hfirst : pairsAt stored name = some set.pairs := by rw [pairsAt, hs, Option.map_some]
    have hnone : Entries.find? name calls.reverse = none :=
      Entries.find?_eq_none (by simpa [Entries.names] using hnot)
    rw [hpairs name (.inl hname), hwritten, hnone, Option.map_none, Option.none_or,
      hr.pairsAt_toStore hname, hfirst]
  · rintro before name set later rfl hlater
    have hname : name ∈ Entries.names (before ++ (name, set) :: later) := by simp [Entries.names]
    rw [hpairs name (.inr hname), hwritten, find?_last hlater, Option.map_some, Option.some_or]

/-- Two sets are published for `n`, one after the other. The sets of the controller `c` and of
`u`, which is not declared and names `U@b` twice, stay in the store as they were, and `n` has
the second one there. -/
theorem stored_sets_kept_twice :
    let document : Value := .table [("store", .text "s"), ("nodes", .table [("n", .table []),
      ("c", .table [("kind", .text "controller")])])]
    let config : Config := ⟨some (.parse "s"), .empty, [],
      .ofList [("n", ⟨.agent, [], []⟩), ("c", ⟨.controller, [], []⟩)]⟩
    let entry (home : String) : Location := .unresolved ⟨"U", "b", by decide⟩ home
    let stored : NodeSets :=
      .ofList [("u", ⟨[entry "1", entry "2"]⟩), ("c", ⟨[entry "3"]⟩), ("n", ⟨[]⟩)]
    let files : FileTree := ⟨[], [(["s"], .file (Text.Utf8.encode (Store.text stored)))]⟩
    let base : Path := ⟨.slash, []⟩
    Config.ofDocument document = .ok config ∧ Store.load files (.parse "/s") = .ok stored ∧
      ∃ start env after found left kept, ofConfig files config base = .ok start ∧
        start.publish files "n" ⟨[entry "4"]⟩ = (.ok (), env, found) ∧
        env.publish found "n" ⟨[entry "5"]⟩ = (.ok (), after, left) ∧
        Store.load left (.parse "/s") = .ok kept ∧
        pairsAt kept "u" = some [("U@b", "1"), ("U@b", "2")] ∧
        pairsAt kept "c" = some [("U@b", "3")] ∧ pairsAt kept "n" = some [("U@b", "5")] := by
  intro document config entry stored files base
  have hread : Config.ofDocument document = .ok config := toOption_eq_some.1 (by decide +kernel)
  have hstored : Store.load files (.parse "/s") = .ok stored := toOption_eq_some.1 (by decide +kernel)
  obtain ⟨start, hload, hrun⟩ := @stored_sets_kept files document config base _ stored hread rfl hstored
  have hcalls : (ofConfig files config base).toOption.map (fun start =>
      let first := start.publish files "n" ⟨[entry "4"]⟩
      (first.1.toOption, (first.2.1.publish first.2.2 "n" ⟨[entry "5"]⟩).1.toOption)) =
        some (some (), some ()) := by
    decide +kernel
  rw [toOption_eq_some.2 hload, Option.map_some, Option.some.injEq, Prod.mk.injEq] at hcalls
  obtain ⟨env, found, hfirst⟩ : ∃ env found,
      start.publish files "n" ⟨[entry "4"]⟩ = (.ok (), env, found) :=
    ⟨_, _, Prod.ext (toOption_eq_some.1 hcalls.1) rfl⟩
  rw [hfirst] at hcalls
  obtain ⟨after, left, hsecond⟩ : ∃ after left,
      env.publish found "n" ⟨[entry "5"]⟩ = (.ok (), after, left) :=
    ⟨_, _, Prod.ext (toOption_eq_some.1 hcalls.2) rfl⟩
  obtain ⟨kept, hkept, hother, hlast⟩ := hrun _ _ _ (.publish (.publish .none hfirst) hsecond)
  refine ⟨hread, hstored, start, env, after, found, left, kept, hload, hfirst, hsecond, hkept, ?_, ?_, ?_⟩
  · exact hother "u" ⟨[entry "1", entry "2"]⟩ (by decide) (by decide)
  · exact hother "c" ⟨[entry "3"]⟩ (by decide) (by decide)
  · exact hlast [("n", ⟨[entry "4"]⟩)] "n" ⟨[entry "5"]⟩ [] rfl (by decide)

end ToolSites.Environment
