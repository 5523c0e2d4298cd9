import ToolSites.Proofs.Environment.Sharing
/-!
# Where the sets in a shared store come from

An environment has what was stored when it was loaded and what was published by it since, and
it writes all of this whenever it publishes; so it may bring back what others have replaced.
What it cannot do is make up a set. `System.Inv` is what every turn keeps: the sets that
environments hold, and those that are stored, are `Known`, which is to say stored at first,
or configured, or passed to a call for the same node; and a file that is being written stands
beside the store, where it is not seen, and belongs to one call alone. The store changes only
when such a file is complete, and so `shared_sets_known`: whoever loads, whenever, finds known
sets and no mixtures of them.
-/

namespace ToolSites.Environment

variable {config : Config} {stored sets inlined : NodeSets} {passed : List (String × OverrideSet)}
  {env after : Environment} {files left : FileTree} {base path : Path} {node : String} {set : OverrideSet}

/-! ## Known sets -/

/-- The pairs are those of one set for the node, all of them and in their order: one that was
stored at first, or that is configured, or that was passed to a call. -/
def Known (config : Config) (stored : NodeSets) (passed : List (String × OverrideSet)) (node : String)
    (pairs : List (String × String)) : Prop :=
  pairsAt stored node = some pairs ∨ inlinePairs config node = some pairs ∨
    ∃ set, (node, set) ∈ passed ∧ set.pairs = pairs

/-- All of the sets are known. -/
def AllKnown (config : Config) (stored : NodeSets) (passed : List (String × OverrideSet))
    (sets : NodeSets) : Prop :=
  ∀ node pairs, pairsAt sets node = some pairs → Known config stored passed node pairs

theorem Known.pass {pairs : List (String × String)} {name : String}
    (h : Known config stored passed name pairs) (node : String) (set : OverrideSet) :
    Known config stored ((node, set) :: passed) name pairs := by
  rcases h with h | h | ⟨known, hm, h⟩
  · exact .inl h
  · exact .inr (.inl h)
  · exact .inr (.inr ⟨known, .tail _ hm, h⟩)

theorem AllKnown.pass (h : AllKnown config stored passed sets) (node : String) (set : OverrideSet) :
    AllKnown config stored ((node, set) :: passed) sets :=
  fun name pairs hp => (h name pairs hp).pass node set

/-- An environment whose sets are all known. -/
structure Traced (config : Config) (stored : NodeSets) (passed : List (String × OverrideSet))
    (env : Environment) : Prop where
  attached : AllKnown config stored passed env.nodes.overrides
  orphaned : AllKnown config stored passed env.orphaned
  persisted : AllKnown config stored passed env.persisted

theorem Traced.pass (h : Traced config stored passed env) (node : String) (set : OverrideSet) :
    Traced config stored ((node, set) :: passed) env :=
  ⟨h.attached.pass node set, h.orphaned.pass node set, h.persisted.pass node set⟩

/-- What is written next is known. -/
theorem Traced.toStore (h : Traced config stored passed env) :
    AllKnown config stored passed (env.toStore.map OverrideSet.unresolved) := by
  intro name pairs hp
  rw [pairsAt_unresolved, pairsAt_toStore] at hp
  rcases Option.or_eq_some_iff.1 hp with hp | ⟨-, hp⟩
  · exact h.persisted name pairs hp
  · exact h.orphaned name pairs hp

/-- What is loaded is known if what is stored is. -/
theorem Reflects.traced (h : Reflects env inlined sets) (hsets : AllKnown config stored passed sets)
    (hinlined : ∀ node, pairsAt inlined node = inlinePairs config node) :
    Traced config stored passed env := by
  have hfound : ∀ name pairs, (pairsAt sets name).or (pairsAt inlined name) = some pairs →
      Known config stored passed name pairs := by
    intro name pairs hp
    rcases Option.or_eq_some_iff.1 hp with hp | ⟨-, hp⟩
    · exact hsets name pairs hp
    · exact .inr (.inl ((hinlined name).symm.trans hp))
  refine ⟨fun name pairs hp => ?_, fun name pairs hp => ?_, fun name pairs hp => ?_⟩
  · rw [h.attached] at hp
    split at hp
    · exact hfound name pairs hp
    · cases hp
  · rw [h.orphaned] at hp
    split at hp
    · cases hp
    · exact hfound name pairs hp
  · rw [h.persisted] at hp
    split at hp
    · exact hsets name pairs hp
    · cases hp

/-- A set that is passed is known from then on, wherever it is put. -/
theorem Traced.withSet (h : Traced config stored passed env) (hp : env.storePath = some path)
    (node : String) (set : OverrideSet) :
    Traced config stored ((node, set) :: passed) (env.withSet node set) := by
  have hpassed : Known config stored ((node, set) :: passed) node set.pairs :=
    .inr (.inr ⟨set, .head _, rfl⟩)
  refine ⟨fun name pairs hpairs => ?_, (h.pass node set).orphaned, fun name pairs hpairs => ?_⟩
  · rw [pairsAt_withSet] at hpairs
    split at hpairs
    · next hn => cases hpairs; exact hn ▸ hpassed
    · exact (h.pass node set).attached name pairs hpairs
  · rw [pairsAt_persisted hp] at hpairs
    split at hpairs
    · next hn => cases hpairs; exact hn ▸ hpassed
    · exact (h.pass node set).persisted name pairs hpairs

/-! ## The store -/

/-- The store loads, with known sets, and still does once its directory was made. -/
def Serves (config : Config) (path : Path) (stored : NodeSets) (passed : List (String × OverrideSet))
    (files : FileTree) : Prop :=
  ∃ sets, Store.load files path = .ok sets ∧ Store.load (files.prepared path) path = .ok sets ∧
    AllKnown config stored passed sets

theorem Serves.prepared (h : Serves config path stored passed files) :
    Serves config path stored passed (files.prepared path) := by
  obtain ⟨sets, -, hload, hknown⟩ := h
  have hagain : (files.prepared path).prepared path = files.prepared path :=
    files.makeDirectories_again path.parent
  exact ⟨sets, hload, hagain.symm ▸ hload, hknown⟩

/-- Where the directory is there, it is enough that the store loads. -/
theorem serves_of_ready {directory : Place} (hready : files.Ready path directory)
    (hload : Store.load files path = .ok sets) (hknown : AllKnown config stored passed sets) :
    Serves config path stored passed files :=
  ⟨sets, hload, by rwa [hready.prepared], hknown⟩

/-- What happens beside the store does not change it. -/
theorem Serves.alone {directory place : Place} (h : Serves config path stored passed files)
    (halone : FileTree.AloneAt place files left) (hready : files.Ready path directory)
    (hbeside : FileTree.Beside path directory place) : Serves config path stored passed left := by
  obtain ⟨sets, hload, -, hknown⟩ := h
  obtain ⟨hisFile, hread⟩ := halone.unseen hready hbeside
  have hleft : Store.load left path = .ok sets := by
    rw [← hload, Store.load_congr hisFile hread]
  exact serves_of_ready (halone.leadsToDirectory hready) hleft hknown

/-! ## Files that are being written -/

/-- What has been made for a call that has come so far. -/
def Phase.Stands (path : Path) (files : FileTree) : Phase → Prop
  | .idle => True
  | .attached => True
  | .prepared => ∃ directory, files.Ready path directory
  | .writing place => ∃ directory bytes, files.Ready path directory ∧
      FileTree.Beside path directory place ∧ files.find? place = some (.file bytes)

theorem Phase.Stands.prepared {phase : Phase} (h : phase.Stands path files) :
    phase.Stands path (files.prepared path) := by
  cases phase with
  | idle => trivial
  | attached => trivial
  | prepared =>
    obtain ⟨directory, hready⟩ := h
    rw [hready.prepared]
    exact ⟨directory, hready⟩
  | writing place =>
    obtain ⟨directory, bytes, hready, hrest⟩ := h
    rw [hready.prepared]
    exact ⟨directory, bytes, hready, hrest⟩

/-- A file that another call writes, or takes away, changes nothing for this one. -/
theorem Phase.Stands.alone {phase : Phase} {place : Place} (h : phase.Stands path files)
    (halone : FileTree.AloneAt place files left) (hne : phase ≠ .writing place) :
    phase.Stands path left := by
  cases phase with
  | idle => trivial
  | attached => trivial
  | prepared =>
    obtain ⟨directory, hready⟩ := h
    exact ⟨directory, halone.leadsToDirectory hready⟩
  | writing own =>
    obtain ⟨directory, bytes, hready, hbeside, hfile⟩ := h
    refine ⟨directory, bytes, halone.leadsToDirectory hready, hbeside, ?_⟩
    rw [halone.others own fun he => hne (congrArg Phase.writing he), hfile]

theorem Phase.Stands.rename {phase : Phase} {directory place : Place} {bytes : List UInt8}
    (h : phase.Stands path files) (hrename : files.rename place path = .ok left)
    (hfile : files.find? place = some (.file bytes)) (hready : files.Ready path directory)
    (hbeside : FileTree.Beside path directory place) (hne : phase ≠ .writing place) :
    phase.Stands path left := by
  have hready' : left.Ready path directory := FileTree.ready_rename hrename hfile hready hbeside
  cases phase with
  | idle => trivial
  | attached => trivial
  | prepared => exact ⟨directory, hready'⟩
  | writing own =>
    obtain ⟨above, found, habove, hown, hfound⟩ := h
    cases hready.1.symm.trans habove.1
    refine ⟨directory, found, hready', hown, ?_⟩
    rw [FileTree.find?_rename_other hrename hfile hready hbeside hown fun he => hne (congrArg _ he),
      hfound]

/-! ## What every turn keeps -/

namespace System

/-- What holds of all systems that come of a store that loads. -/
structure Inv (config : Config) (path : Path) (stored : NodeSets) (s : System) : Prop where
  serves : Serves config path stored s.passed s.files
  clients : ∀ i c, s.clients i = some c → c.env.storePath = some path ∧
    Traced config stored s.passed c.env ∧ c.phase.Stands path s.files
  /-- No two calls write the same file. -/
  apart : ∀ i j c d place, s.clients i = some c → s.clients j = some d →
    c.phase = .writing place → d.phase = .writing place → i = j

variable {s s' : System} {i : Nat} {phase : Phase}

theorem Inv.pass (h : Inv config path stored s) (node : String) (set : OverrideSet) :
    Inv config path stored (s.pass node set) where
  serves := by
    obtain ⟨sets, hload, hprepared, hknown⟩ := h.serves
    exact ⟨sets, hload, hprepared, hknown.pass node set⟩
  clients i c hc := by
    obtain ⟨hp, htraced, hstands⟩ := h.clients i c hc
    exact ⟨hp, htraced.pass node set, hstands⟩
  apart := h.apart

/-- A turn keeps the invariant if it does so for the store, for the client itself, and for what
the others have made. -/
theorem Inv.turn (h : Inv config path stored s) (hserves : Serves config path stored s.passed left)
    (hp : env.storePath = some path) (htraced : Traced config stored s.passed env)
    (hstands : phase.Stands path left)
    (hothers : ∀ j c, j ≠ i → s.clients j = some c → c.phase.Stands path left ∧
      ∀ place, phase = .writing place → c.phase ≠ .writing place) :
    Inv config path stored (s.turn i left env phase) := by
  have hcases : ∀ j c, (s.turn i left env phase).clients j = some c →
      (j = i ∧ c = ⟨env, phase⟩) ∨ (j ≠ i ∧ s.clients j = some c) := by
    intro j c hc
    by_cases hj : j = i
    · subst hj
      rw [clients_turn] at hc
      cases hc
      exact .inl ⟨rfl, rfl⟩
    · rw [clients_turn_of_ne hj] at hc
      exact .inr ⟨hj, hc⟩
  refine ⟨hserves, fun j c hc => ?_, fun j k c d place hc hd hcw hdw => ?_⟩
  · rcases hcases j c hc with ⟨-, rfl⟩ | ⟨hj, hc⟩
    · exact ⟨hp, htraced, hstands⟩
    · obtain ⟨hp, htraced, -⟩ := h.clients j c hc
      exact ⟨hp, htraced, (hothers j c hj hc).1⟩
  · rcases hcases j c hc with ⟨hj, rfl⟩ | ⟨hj, hc⟩
    · rcases hcases k d hd with ⟨hk, -⟩ | ⟨hk, hd⟩
      · exact hj.trans hk.symm
      · exact absurd hdw ((hothers k d hk hd).2 place hcw)
    · rcases hcases k d hd with ⟨hk, rfl⟩ | ⟨hk, hd⟩
      · exact absurd hcw ((hothers j c hj hc).2 place hdw)
      · exact h.apart j k c d place hc hd hcw hdw

/-- The file of a call is no other's. -/
theorem Inv.own (h : Inv config path stored s) {place : Place} (hi : s.clients i = some ⟨env, .writing place⟩)
    (j : Nat) (c : Client) (hj : j ≠ i) (hc : s.clients j = some c) : c.phase ≠ .writing place :=
  fun hw => hj (h.apart j i c _ place hc hi hw rfl)

/-- A turn that changes only a file of the client beside the store. -/
theorem Inv.turn_alone (h : Inv config path stored s) {directory place : Place}
    (halone : FileTree.AloneAt place s.files left) (hready : s.files.Ready path directory)
    (hbeside : FileTree.Beside path directory place) (hp : env.storePath = some path)
    (htraced : Traced config stored s.passed env) (hstands : phase.Stands path left)
    (hown : ∀ other, phase = .writing other → other = place)
    (hothers : ∀ j c, j ≠ i → s.clients j = some c → c.phase ≠ .writing place) :
    Inv config path stored (s.turn i left env phase) := by
  refine h.turn (h.serves.alone halone hready hbeside) hp htraced hstands fun j c hj hc => ⟨?_, ?_⟩
  · exact (h.clients j c hc).2.2.alone halone (hothers j c hj hc)
  · intro other hw
    rw [hown other hw]
    exact hothers j c hj hc

/-- A turn that leaves the files as they are. -/
theorem Inv.turn_still (h : Inv config path stored s) (hp : env.storePath = some path)
    (htraced : Traced config stored s.passed env) (hidle : ∀ place, phase ≠ .writing place)
    (hstands : phase.Stands path s.files) : Inv config path stored (s.turn i s.files env phase) :=
  h.turn h.serves hp htraced hstands fun j c _ hc =>
    ⟨(h.clients j c hc).2.2, fun place hw => absurd hw (hidle place)⟩

/-- A turn that makes the directory of the store, as far as it can be made. -/
theorem Inv.turn_prepared (h : Inv config path stored s) (hp : env.storePath = some path)
    (htraced : Traced config stored s.passed env) (hidle : ∀ place, phase ≠ .writing place)
    (hstands : phase.Stands path (s.files.prepared path)) :
    Inv config path stored (s.turn i (s.files.prepared path) env phase) :=
  h.turn h.serves.prepared hp htraced hstands fun j c _ hc =>
    ⟨(h.clients j c hc).2.2.prepared, fun place hw => absurd hw (hidle place)⟩

theorem Inv.load (hpath : config.storeFrom base = some path) (h : Inv config path stored s)
    (hload : ofConfig s.files config base = .ok env) : Inv config path stored (s.turn i s.files env .idle) := by
  obtain ⟨types, installations, inlined, sets, hparts, hsets, rfl⟩ := ofConfig_arrange hpath hload
  obtain ⟨found, hfound, -, hknown⟩ := h.serves
  cases hfound.symm.trans hsets
  have hr := arrange_reflects types installations (declaredNodes config) (some path) inlined sets
  exact h.turn_still rfl (hr.traced hknown hparts.pairsAt_inlined) (fun _ he => nomatch he) trivial

theorem Inv.attach (h : Inv config path stored s) (hi : s.clients i = some ⟨env, .idle⟩)
    (hattach : env.attach node set = .ok after) :
    Inv config path stored ((s.pass node set).turn i s.files after .attached) := by
  obtain ⟨hp, htraced, -⟩ := h.clients i _ hi
  rw [attach_eq] at hattach
  split at hattach
  · cases hattach
    exact (h.pass node set).turn_still hp (htraced.withSet hp node set) (fun _ he => nomatch he) trivial
  · cases hattach

theorem Inv.create (h : Inv config path stored s) {place : Place}
    (hi : s.clients i = some ⟨env, .prepared⟩) (htemporary : s.files.temporaryPlace path = .ok place) :
    Inv config path stored (s.turn i (s.files.put place (.file [])) env (.writing place)) := by
  obtain ⟨hp, htraced, directory, hready⟩ := h.clients i _ hi
  obtain ⟨hne, hfree⟩ := FileTree.temporaryPlace_free htemporary
  obtain ⟨above, habove, -, -, -, -, -, n, -, hplace, -⟩ := FileTree.temporaryPlace_eq_ok.1 htemporary
  cases hready.1.symm.trans habove
  have hbeside : FileTree.Beside path directory place := ⟨n, hplace⟩
  have halone : FileTree.AloneAt place s.files (s.files.put place (.file [])) :=
    FileTree.aloneAt_put hne (by rw [hfree]; simp)
  have hfile : (s.files.put place (.file [])).find? place = some (.file []) := by
    rw [FileTree.find?_put _ hne, if_pos rfl]
  -- at a free place no other call has its file
  have hothers : ∀ j c, j ≠ i → s.clients j = some c → c.phase ≠ .writing place := by
    intro j c _ hc hw
    have hstands := (h.clients j c hc).2.2
    rw [hw] at hstands
    obtain ⟨-, bytes, -, -, hfound⟩ := hstands
    rw [hfree] at hfound
    cases hfound
  refine h.turn_alone halone hready hbeside hp htraced ?_ ?_ hothers
  · exact ⟨directory, [], halone.leadsToDirectory hready, hbeside, hfile⟩
  · rintro other ⟨⟩
    rfl

theorem Inv.write (h : Inv config path stored s) {place : Place}
    (hi : s.clients i = some ⟨env, .writing place⟩) (bytes : List UInt8) :
    Inv config path stored (s.turn i (s.files.put place (.file bytes)) env (.writing place)) := by
  obtain ⟨hp, htraced, directory, old, hready, hbeside, hold⟩ := h.clients i _ hi
  have halone : FileTree.AloneAt place s.files (s.files.put place (.file bytes)) :=
    FileTree.aloneAt_put hbeside.ne_nil (by rw [hold]; simp)
  have hfile : (s.files.put place (.file bytes)).find? place = some (.file bytes) := by
    rw [FileTree.find?_put _ hbeside.ne_nil, if_pos rfl]
  refine h.turn_alone halone hready hbeside hp htraced ?_ ?_ (h.own hi)
  · exact ⟨directory, bytes, halone.leadsToDirectory hready, hbeside, hfile⟩
  · rintro other ⟨⟩
    rfl

theorem Inv.rename (h : Inv config path stored s) {place : Place}
    (hi : s.clients i = some ⟨env, .writing place⟩)
    (hfile : s.files.find? place = some (.file (Text.Utf8.encode (Store.text env.toStore))))
    (hrename : s.files.rename place path = .ok left) :
    Inv config path stored (s.turn i left env .idle) := by
  obtain ⟨hp, htraced, directory, bytes, hready, hbeside, -⟩ := h.clients i _ hi
  have hread := FileTree.read_rename hrename hfile hready hbeside
  have hserves : Serves config path stored s.passed left :=
    serves_of_ready (FileTree.ready_rename hrename hfile hready hbeside)
      (Store.load_written hread) htraced.toStore
  refine h.turn hserves hp htraced trivial fun j c hj hc => ⟨?_, fun _ he => nomatch he⟩
  exact (h.clients j c hc).2.2.rename hrename hfile hready hbeside (h.own hi j c hj hc)

theorem Inv.abandon (h : Inv config path stored s) {place : Place}
    (hi : s.clients i = some ⟨env, .writing place⟩) :
    Inv config path stored (s.turn i (s.files.erase place) env .idle) := by
  obtain ⟨hp, htraced, directory, bytes, hready, hbeside, hold⟩ := h.clients i _ hi
  have halone : FileTree.AloneAt place s.files (s.files.erase place) :=
    FileTree.aloneAt_erase hbeside.ne_nil (by rw [hold]; simp)
  exact h.turn_alone halone hready hbeside hp htraced trivial (fun _ he => nomatch he) (h.own hi)

/-- Each turn keeps the invariant. -/
theorem Inv.step (hpath : config.storeFrom base = some path) (h : Inv config path stored s)
    (hstep : Step config base s s') : Inv config path stored s' := by
  cases hstep with
  | load hnew hload => exact h.load hpath hload
  | refuse hi hattach => exact h.pass _ _
  | attach hi hattach => exact h.attach hi hattach
  | prepare hi hother hmake =>
    obtain ⟨hp, htraced, -⟩ := h.clients _ _ hi
    cases hother.symm.trans hp
    obtain rfl : s.files.prepared path = _ := congrArg Prod.snd hmake
    exact h.turn_prepared hp htraced (fun _ he => nomatch he) (FileTree.directory_of_makeDirectories hmake)
  | block hi hother hmake =>
    obtain ⟨hp, htraced, -⟩ := h.clients _ _ hi
    cases hother.symm.trans hp
    obtain rfl : s.files.prepared path = _ := congrArg Prod.snd hmake
    exact h.turn_prepared hp htraced (fun _ he => nomatch he) trivial
  | create hi hother htemporary =>
    cases hother.symm.trans (h.clients _ _ hi).1
    exact h.create hi htemporary
  | write hi _ => exact h.write hi _
  | rename hi hother hfile hrename =>
    cases hother.symm.trans (h.clients _ _ hi).1
    exact h.rename hi hfile hrename
  | fail hi _ =>
    obtain ⟨hp, htraced, -⟩ := h.clients _ _ hi
    exact h.turn_still hp htraced (fun _ he => nomatch he) trivial
  | abandon hi => exact h.abandon hi

theorem Reachable.inv (hpath : config.storeFrom base = some path)
    (hserves : Serves config path stored [] files) (h : Reachable config base files s) :
    Inv config path stored s := by
  induction h with
  | start =>
    refine ⟨hserves, fun i c hc => ?_, fun i j c d place hc => ?_⟩
    · cases hc
    · cases hc
  | step _ hstep ih => exact ih.step hpath hstep

end System

/-! ## All loads -/

/-- The store of a configuration that was read loads, and to make the directory of the store
would not change what is loaded. Then it loads after any turns of any number of environments,
and so does the configuration. Every set that is loaded, at a node, as an orphan or as one to
be stored again, has all the pairs, in their order, of one set for the same name: of the one
that was stored at first, of the configured one, or of one that was passed to a call of
`publish` before. The same holds of the sets that environments have in memory. Calls that
nobody interrupts are turns too. -/
theorem shared_sets_known {document : Value} {written : Path}
    (hread : Config.ofDocument document = .ok config) (hstore : config.store = some written)
    (hstored : Store.load files (base.join written) = .ok stored)
    (hprepared : Store.load (files.prepared (base.join written)) (base.join written) = .ok stored) :
    (∀ s, System.Reachable config base files s → ∃ sets env,
      Store.load s.files (base.join written) = .ok sets ∧ ofConfig s.files config base = .ok env ∧
        AllKnown config stored s.passed sets ∧ Traced config stored s.passed env ∧
        ∀ i c, s.clients i = some c → Traced config stored s.passed c.env) ∧
    ∀ s i env node set result after left, System.Reachable config base files s →
      s.clients i = some ⟨env, .idle⟩ → env.publish s.files node set = (result, after, left) →
      System.Reachable config base files ((s.pass node set).turn i left after .idle) := by
  have hpath : config.storeFrom base = some (base.join written) := by
    rw [Config.storeFrom, hstore]
    rfl
  obtain ⟨types, installations, inlined, hparts⟩ := parts_of_valid (Config.valid_of_ofDocument hread)
  refine ⟨fun s hs => ?_, fun s i env node set result after left hs hi hpublish => hs.publish hi hpublish⟩
  have hinv := hs.inv hpath ⟨stored, hstored, hprepared, fun node pairs hp => .inl hp⟩
  obtain ⟨sets, hload, -, hknown⟩ := hinv.serves
  refine ⟨sets, _, hload, ofConfig_of_parts hpath hparts hload, hknown, ?_, fun i c hc => ?_⟩
  · exact (arrange_reflects _ _ _ _ _ _).traced hknown hparts.pairsAt_inlined
  · exact (hinv.clients i c hc).2.1

/-- The environments `0` and `1` are loaded, `0` publishes a set for `n`, and `1`, which has the
old one, publishes for `m`. What is then loaded for `n` is the one or the other. -/
theorem shared_sets_known_outdated :
    let document : Value := .table [("store", .text "s"),
      ("nodes", .table [("n", .table []), ("m", .table [])])]
    let config : Config := ⟨some (.parse "s"), .empty, [],
      .ofList [("n", ⟨.agent, [], []⟩), ("m", ⟨.agent, [], []⟩)]⟩
    let entry (home : String) : Location := .unresolved ⟨"T", "a", by decide⟩ home
    let stored : NodeSets := .ofList [("n", ⟨[entry "1"]⟩)]
    let files : FileTree := ⟨[], [(["s"], .file (Text.Utf8.encode (Store.text stored)))]⟩
    let base : Path := ⟨.slash, []⟩
    let path : Path := .parse "/s"
    Config.ofDocument document = .ok config ∧ Store.load files path = .ok stored ∧
      Store.load (files.prepared path) path = .ok stored ∧
      ∃ env first second found left sets, ofConfig files config base = .ok env ∧
        env.publish files "n" ⟨[entry "2"]⟩ = (.ok (), first, found) ∧
        env.publish found "m" ⟨[]⟩ = (.ok (), second, left) ∧ Store.load left path = .ok sets ∧
        ∀ pairs, pairsAt sets "n" = some pairs → pairs = [("T@a", "1")] ∨ pairs = [("T@a", "2")] := by
  intro document config entry stored files base path
  have hread : Config.ofDocument document = .ok config := toOption_eq_some.1 (by decide +kernel)
  have hstored : Store.load files path = .ok stored := toOption_eq_some.1 (by decide +kernel)
  have hprepared : Store.load (files.prepared path) path = .ok stored :=
    toOption_eq_some.1 (by decide +kernel)
  have hpath : base.join (.parse "s") = path := rfl
  obtain ⟨hknown, hcall⟩ := shared_sets_known hread rfl (hpath ▸ hstored) (hpath ▸ hprepared)
  have hrun : (ofConfig files config base).toOption.map (fun env =>
      let first := env.publish files "n" ⟨[entry "2"]⟩
      (first.1.toOption, (env.publish first.2.2 "m" ⟨[]⟩).1.toOption)) = some (some (), some ()) := by
    decide +kernel
  obtain ⟨env, henv, hdone⟩ := Option.map_eq_some_iff.1 hrun
  have hload : ofConfig files config base = .ok env := toOption_eq_some.1 henv
  rw [Prod.mk.injEq] at hdone
  obtain ⟨first, found, hfirst⟩ : ∃ first found,
      env.publish files "n" ⟨[entry "2"]⟩ = (.ok (), first, found) :=
    ⟨_, _, Prod.ext (toOption_eq_some.1 hdone.1) rfl⟩
  rw [hfirst] at hdone
  obtain ⟨second, left, hsecond⟩ : ∃ second left, env.publish found "m" ⟨[]⟩ = (.ok (), second, left) :=
    ⟨_, _, Prod.ext (toOption_eq_some.1 hdone.2) rfl⟩
  have hloaded := (System.Reachable.start.step (.load (i := 0) rfl hload)).step
    (.load (i := 1) rfl hload)
  have hpublished := hcall _ 0 env _ _ _ _ _ hloaded rfl hfirst
  have hlast := hcall _ 1 env _ _ _ _ _ hpublished rfl hsecond
  obtain ⟨sets, -, hsets, -, hall, -⟩ := hknown _ hlast
  refine ⟨hread, hstored, hprepared, env, first, second, found, left, sets, hload, hfirst, hsecond, hsets,
    fun pairs hpairs => ?_⟩
  rcases hall "n" pairs hpairs with h | h | ⟨set, hm, rfl⟩
  · exact .inl (Option.some.inj h).symm
  · cases h
  · rcases List.mem_cons.1 hm with h | h
    · have hname : "n" = "m" := congrArg Prod.fst h
      exact absurd hname (by decide)
    · obtain rfl : set = ⟨[entry "2"]⟩ := congrArg Prod.snd (List.mem_singleton.1 h)
      exact .inr rfl

/-- The directory `x`, through which the path of the store leads, is missing, so that the store
is empty at first. A call makes it, and fails as the name of its file would be too long. From
then on the path leads to a file that is no store, and nothing loads. -/
theorem shared_store_uncovered :
    let name : String := .ofList (List.replicate 250 'c')
    let document : Value := .table [("store", .text ("x/../" ++ name)),
      ("nodes", .table [("n", .table [])])]
    let config : Config := ⟨some ⟨.relative, ["x", "..", name]⟩, .empty, [],
      .ofList [("n", ⟨.agent, [], []⟩)]⟩
    let files : FileTree := ⟨[], [([name], .file [120])]⟩
    let base : Path := ⟨.slash, []⟩
    let path : Path := ⟨.slash, ["x", "..", name]⟩
    Config.ofDocument document = .ok config ∧ config.storeFrom base = some path ∧
      Store.load files path = .ok .empty ∧ ∃ s, System.Reachable config base files s ∧
        (∀ sets, Store.load s.files path ≠ .ok sets) ∧ ∀ env, ofConfig s.files config base ≠ .ok env := by
  intro name document config files base path
  have hname : name.toList = List.replicate 250 'c' := String.toList_ofList
  have hread : Config.ofDocument document = .ok config := by
    have hchars : ("x/../" ++ name).toList = "x/../".toList ++ List.replicate 250 'c' := by
      rw [String.toList_append, hname]
    have hstore : Path.parse ("x/../" ++ name) = ⟨.relative, ["x", "..", name]⟩ := by
      rw [Path.parse, hchars]
      decide +kernel
    change _ = Except.ok (⟨some ⟨.relative, ["x", "..", name]⟩, _, _, _⟩ : Config)
    rw [← hstore]
    rfl
  have hpath : config.storeFrom base = some path := rfl
  have hnull : '\x00' ∉ path.text.toList := by
    have htext : path.text = "/x/../" ++ name := by decide +kernel
    rw [htext, String.toList_append, hname, List.mem_append, List.mem_replicate]
    decide
  have hsize : path.text.utf8ByteSize ≤ FileTree.maxPath := by decide +kernel
  -- before the call the path leads nowhere
  have hbefore : files.locate path = .error .missing := by
    rw [FileTree.locate_of_text hnull hsize]
    decide +kernel
  have hload : Store.load files path = .ok .empty := by
    rw [Store.load, Store.fetch, Store.fetch?, FileTree.isFile, FileTree.look, hbefore]
    rfl
  obtain ⟨types, installations, inlined, hparts⟩ := parts_of_valid (Config.valid_of_ofDocument hread)
  have hloaded : System.Reachable config base files _ :=
    System.Reachable.start.step (.load (i := 0) rfl (ofConfig_of_parts hpath hparts hload))
  generalize hstart : arrange types installations (declaredNodes config) (some path) inlined .empty = env
    at hloaded
  rcases hpublish : env.publish files "n" ⟨[]⟩ with ⟨result, after, left⟩
  have hreached := hloaded.publish System.clients_turn hpublish
  -- the call makes the directory, and no more
  have hcarries : carries env.nodes "n" = true := by
    rw [← hstart]
    exact (carries_declaredNodes config "n").2 ⟨_, rfl, rfl⟩
  have hleft : left = files.prepared path := by
    rcases publish_cases hpublish with ⟨hc, -⟩ | ⟨-, -, hp, -⟩ | ⟨-, -, other, hp, hsave⟩
    · rw [hcarries] at hc
      cases hc
    · rw [← hstart] at hp
      cases hp
    · rw [← hstart] at hp
      cases hp
      have hlong : FileTree.maxName < (FileTree.temporaryName path.name 0).utf8ByteSize := by decide +kernel
      rw [← FileTree.replace_of_long _ hlong, Store.files_of_save hsave]
  -- then the path leads to the file
  have hafter : left.locate path = .ok [name] := by
    rw [hleft, FileTree.locate_of_text hnull hsize]
    decide +kernel
  have hfile : left.find? [name] = some (.file [120]) := by
    rw [hleft]
    decide +kernel
  have hreads : left.read path = .ok [120] := FileTree.read_eq_ok.2 ⟨rfl, _, hafter, hfile, rfl⟩
  have hfails : Store.fetch left path = Store.ofText path ['x'] :=
    Store.fetch_of_text (FileTree.isFile_of_read hreads) hreads (toOption_eq_some.1 (by decide +kernel))
  have hnone : ∀ sets, Store.load left path ≠ .ok sets := by
    intro sets hsets
    obtain ⟨listed, hlisted, -⟩ := bind_eq_ok.1 hsets
    have hsome : (Store.ofText path ['x']).toOption.isSome = true := by
      rw [← hfails, hlisted]
      rfl
    exact absurd hsome (by decide +kernel)
  refine ⟨hread, hpath, hload, _, hreached, hnone, fun env hof => ?_⟩
  obtain ⟨-, -, -, sets, -, hsets, -⟩ := ofConfig_arrange hpath hof
  exact hnone sets hsets

end ToolSites.Environment
