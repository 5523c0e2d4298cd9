import ToolSites.Proofs.Environment.Arrangement
/-!
# What is configured is what is assembled

A configuration that was read assembles unless its store cannot be read, and what it
assembles to is what it says: `ofConfig_faithful`. The sets are placed one after the other,
and placing asks the registry for each node and attaches to it, which it might refuse;
`placeAll_eq` goes through that loop and shows that it never does, and that `arrange` is
what it comes to. The rest is a matter of order: types, installations and nodes stand where
the configuration names them, and as no type holds a separator no two installations share a
key, whatever their names hold.
-/

namespace ToolSites

/-! ## Types -/

theorem Descriptor.displayName_declare {identifier displayName : String} {d : Descriptor}
    (h : declare identifier displayName = .ok d) :
    d.displayName = if displayName = "" then identifier else displayName := by
  unfold declare at h
  split at h
  · cases h
  · split at h
    · cases h
    · cases h; rfl

namespace Environment

variable {config : Config} {types : TypeRegistry} {installations : NameMap Installation}
  {inlined : NodeSets}

/-- The registered types are the declared ones, each with its display name. -/
theorem Parts.types_all (p : Parts config types installations inlined) :
    types.all.map (fun type => (type.identifier, type.displayName)) =
      config.toolTypes.entries.map fun e => (e.1, if e.2 = "" then e.1 else e.2) := by
  obtain ⟨declared, hd, ht⟩ := bind_eq_ok.1 p.types_ok
  rw [TypeRegistry.all_ofList ht]
  refine map_mapM hd fun e _ type he => ?_
  obtain ⟨d, hdeclare, rfl⟩ := map_eq_ok.1 he
  exact Prod.ext (Descriptor.declare_eq_ok hdeclare) (Descriptor.displayName_declare hdeclare)

/-! ## Placing -/

/-- What is known before any set is placed. -/
def unplaced (types : TypeRegistry) (installations : NameMap Installation) (nodes : NodeRegistry)
    (path : Option Path) : Environment :=
  ⟨types, installations, nodes, path, .empty, .empty⟩

/-- Places the set of a name. The set of a node that can carry it is attached, and kept track
of if it is one of the `stored`; any other set becomes an orphan. -/
def place (stored : NodeSets) (env : Environment) (e : String × OverrideSet) :
    Except Error Environment :=
  let orphan : Environment := { env with orphaned := env.orphaned.insert e.1 e.2 }
  if !env.nodes.contains e.1 then .ok orphan
  else do
    let node ← env.nodes.get e.1
    if !node.kind.carriesOverrides then return orphan
    let set := e.2.resolved env.types
    let nodes ← env.nodes.attach node set
    return { env with
      nodes
      persisted := if stored.contains e.1 then env.persisted.insert e.1 set else env.persisted }

/-- Places one set after the other. -/
def placeAll (stored : NodeSets) (env : Environment) (sets : NodeSets) : Except Error Environment :=
  sets.entries.foldlM (place stored) env

/-- The environment in which the sets are placed, whatever was placed in it before. -/
def placed (stored : NodeSets) (env : Environment) (sets : NodeSets) : Environment :=
  let attached := (sets.filter fun name _ => carries env.nodes name).map fun set => set.resolved env.types
  { env with
    nodes := { env.nodes with overrides := attached }
    orphaned := sets.filter fun name _ => !carries env.nodes name
    persisted := attached.filter fun name _ => stored.contains name }

theorem known_of_find? {nodes : NodeRegistry} {name : String} {node : Node}
    (h : nodes.nodes.find? name = some node) :
    nodes.contains name = true ∧ nodes.get name = .ok node ∧ node.name = name := by
  refine ⟨?_, NodeRegistry.get_eq_ok.2 h, nodes.named h⟩
  rw [NodeRegistry.contains, NameMap.contains, h]
  rfl

/-- A node that can carry a set is known and takes it. -/
theorem place_of_carries {env : Environment} {e : String × OverrideSet}
    (hc : carries env.nodes e.1 = true) (stored : NodeSets) :
    place stored env e = .ok { env with
      nodes := { env.nodes with overrides := env.nodes.overrides.insert e.1 (e.2.resolved env.types) }
      persisted := if stored.contains e.1 then env.persisted.insert e.1 (e.2.resolved env.types)
        else env.persisted } := by
  unfold carries at hc
  split at hc
  · next node hn =>
    obtain ⟨hknown, hget, hname⟩ := known_of_find? hn
    simp [place, hknown, hget, hc, NodeRegistry.attach, hname, bind, Except.bind, pure, Except.pure]
  · cases hc

/-- The set of any other name becomes an orphan. -/
theorem place_of_not_carries {env : Environment} {e : String × OverrideSet}
    (hc : carries env.nodes e.1 = false) (stored : NodeSets) :
    place stored env e = .ok { env with orphaned := env.orphaned.insert e.1 e.2 } := by
  unfold carries at hc
  unfold place
  split at hc
  · next node hn =>
    obtain ⟨hknown, hget, -⟩ := known_of_find? hn
    simp [hknown, hget, hc, bind, Except.bind, pure, Except.pure]
  · next hn =>
    have hunknown : env.nodes.contains e.1 = false := by
      rw [NodeRegistry.contains, NameMap.contains, hn]; rfl
    simp [hunknown]

/-- Placing one more set succeeds, and adds it to those that are placed. -/
theorem place_placed (stored sets : NodeSets) (env : Environment) (e : String × OverrideSet) :
    place stored (placed stored env sets) e = .ok (placed stored env (sets.insert e.1 e.2)) := by
  have hcarries : carries (placed stored env sets).nodes = carries env.nodes := rfl
  have hattached := sets.filter_insert (carries env.nodes) e.1 e.2
  have horphaned := sets.filter_insert (fun name => !carries env.nodes name) e.1 e.2
  cases hc : carries env.nodes e.1 with
  | true =>
    rw [hc, if_pos rfl] at hattached
    rw [hc, Bool.not_true, if_neg Bool.false_ne_true] at horphaned
    rw [place_of_carries (by rw [hcarries, hc])]
    simp only [placed, hattached, horphaned, NameMap.map_insert]
    rw [NameMap.filter_insert _ stored.contains]
  | false =>
    rw [hc, if_neg Bool.false_ne_true] at hattached
    rw [hc, Bool.not_false, if_pos rfl] at horphaned
    rw [place_of_not_carries (by rw [hcarries, hc])]
    simp only [placed, hattached, horphaned]

/-- Placing sets one after the other succeeds, and gives what `arrange` gives. -/
theorem placeAll_eq (types : TypeRegistry) (installations : NameMap Installation)
    {nodes : NodeRegistry} (hbare : nodes.overrides = .empty) (path : Option Path)
    (inlined stored : NodeSets) :
    placeAll stored (unplaced types installations nodes path) (inlined.merge stored) =
      .ok (arrange types installations nodes path inlined stored) := by
  let start := unplaced types installations nodes path
  have hstart : placed stored start .empty = start := by
    obtain ⟨known, overrides, named⟩ := nodes
    cases hbare
    rfl
  -- the environment after each set, from the sets placed up to there
  have hrun : ∀ (entries : List (String × OverrideSet)) (before : NodeSets),
      entries.foldlM (place stored) (placed stored start before) =
        .ok (placed stored start (entries.foldl (fun acc e => acc.insert e.1 e.2) before)) := by
    intro entries
    induction entries with
    | nil => exact fun _ => rfl
    | cons e rest ih =>
      intro before
      rw [List.foldlM_cons, place_placed]
      exact ih _
  have hall : NameMap.ofList (inlined.merge stored).entries = inlined.merge stored :=
    NameMap.ext (NameMap.entries_ofList (inlined.merge stored).nodup)
  have hplaced := hrun (inlined.merge stored).entries .empty
  rw [hstart] at hplaced
  rw [placeAll, hplaced]
  show Except.ok (placed stored start (NameMap.ofList _)) = _
  rw [hall]
  rfl

theorem overrides_declaredNodes (config : Config) : (declaredNodes config).overrides = .empty := by
  have hadd : ∀ (nodes : List Node) (r : NodeRegistry),
      (nodes.foldl NodeRegistry.add r).overrides = r.overrides := by
    intro nodes
    induction nodes with
    | nil => exact fun _ => rfl
    | cons node rest ih => exact fun r => ih (r.add node)
  exact hadd _ _

/-! ## Loading -/

/-- The environment has what the configuration names, in the same order: the types with their
display names, one installation for each configured one, and the nodes. -/
structure Holds (env : Environment) (config : Config) : Prop where
  types : env.types.all.map (fun type => (type.identifier, type.displayName)) =
    config.toolTypes.entries.map fun e => (e.1, if e.2 = "" then e.1 else e.2)
  installations : List.Forall₂ (Installs env.types) config.installations env.installations.entries
  nodes : env.nodes.all = config.nodes.entries.map fun e => ⟨e.1, e.2.kind, e.2.labels⟩

theorem installation_eq_ok {env : Environment} {key : String} {i : Installation} :
    env.installation key = .ok i ↔ env.installations.find? key = some i := by
  unfold installation
  cases env.installations.find? key <;> simp

theorem arrange_holds (p : Parts config types installations inlined) (hv : config.Valid)
    (path : Option Path) (stored : NodeSets) :
    (arrange types installations (declaredNodes config) path inlined stored).Holds config where
  types := p.types_all
  installations := p.installs hv
  nodes := by
    show (declaredNodes config).nodes.entries.map Prod.snd = _
    rw [entries_declaredNodes, List.map_map]
    rfl

/-- A configuration that was read assembles unless its store cannot be read, and then that is
the error. None of the calls on the way fails: the types register, each installation finds its
type, the configured sets are made, and each set is placed at a node that is found and takes
it. The environment has the types, installations and nodes of the configuration, in order. The
keys of the installations are different, and under the key of a configured one stands that
installation, of the type that is registered for it. -/
theorem ofConfig_faithful {document : Value} {config : Config} (files : FileTree) (base : Path)
    (hread : Config.ofDocument document = .ok config) :
    (∀ e, ofConfig files config base = .error e ↔ storedSets files (config.storeFrom base) = .error e) ∧
    ∀ stored, storedSets files (config.storeFrom base) = .ok stored →
      ∃ (env : Environment) (declared : List ToolType) (inlined : NodeSets),
        ofConfig files config base = .ok env ∧
        declaredTypes config = .ok declared ∧ TypeRegistry.ofList declared = .ok env.types ∧
        declaredInstallations env.types config = .ok env.installations ∧
        inlineSets config = .ok inlined ∧
        placeAll stored
          (unplaced env.types env.installations (declaredNodes config) (config.storeFrom base))
          (inlined.merge stored) = .ok env ∧
        env.Holds config ∧
        (config.installations.map fun spec => Key.textOf spec.typeId spec.name).Nodup ∧
        ∀ spec ∈ config.installations, ∃ type, env.types.get spec.typeId = .ok type ∧
          env.installation (Key.textOf spec.typeId spec.name) = .ok ⟨spec.name, type, spec.home⟩ := by
  have hv := Config.valid_of_ofDocument hread
  obtain ⟨types, installations, inlined, hparts⟩ := parts_of_valid hv
  have hassemble : ∀ stored, assemble config (config.storeFrom base) stored =
      .ok (arrange types installations (declaredNodes config) (config.storeFrom base) inlined stored) :=
    fun stored => assemble_eq_ok.2 ⟨types, installations, inlined, hparts, rfl⟩
  have hload : ∀ {stored}, storedSets files (config.storeFrom base) = .ok stored →
      ofConfig files config base =
        .ok (arrange types installations (declaredNodes config) (config.storeFrom base) inlined stored) :=
    fun hstored => ofConfig_eq_ok.2 ⟨_, hstored, hassemble _⟩
  constructor
  · intro e
    cases hstored : storedSets files (config.storeFrom base) with
    | error problem =>
      have herror : ofConfig files config base = .error problem := by rw [ofConfig, hstored]; rfl
      simp only [herror, Except.error.injEq]
    | ok stored => rw [hload hstored]; exact iff_of_false nofun nofun
  · intro stored hstored
    obtain ⟨declared, hdeclared, htypes⟩ := bind_eq_ok.1 hparts.types_ok
    have hholds := arrange_holds hparts hv (config.storeFrom base) stored
    refine ⟨_, declared, inlined, hload hstored, hdeclared, htypes, hparts.installations_ok,
      hparts.inlined_ok, placeAll_eq types installations (overrides_declaredNodes config) _ _ _, hholds,
      keys_nodup hv, fun spec hs => ?_⟩
    obtain ⟨type, ht, hfind⟩ := hparts.find?_installation hv hs
    exact ⟨type, ht, installation_eq_ok.2 hfind⟩

/-- Names that hold separators, and a name that looks like the key of another installation. -/
theorem ofConfig_faithful_separators :
    let installation (name home : String) : Value :=
      .table [("type", .text "jdk"), ("name", .text name), ("home", .text home)]
    let document : Value := .table [("tool_types", .table [("jdk", .table [])]),
      ("installations", .array [installation "a@b" "g", installation "jdk@a@b" "h"]),
      ("nodes", .table [("n", .table [("tool_locations", .array [
        .table [("key", .text "jdk@a@b"), ("home", .text "o")]])])])]
    let config : Config := ⟨none, .ofList [("jdk", "")], [⟨"jdk", "a@b", "g"⟩, ⟨"jdk", "jdk@a@b", "h"⟩],
      .ofList [("n", ⟨.agent, [], [("jdk@a@b", "o")]⟩)]⟩
    let files : FileTree := ⟨[], []⟩
    let base : Path := ⟨.slash, []⟩
    Config.ofDocument document = .ok config ∧ storedSets files (config.storeFrom base) = .ok .empty ∧
      ∃ env, ofConfig files config base = .ok env ∧ env.Holds config ∧
        ∃ type, env.types.get "jdk" = .ok type ∧
          env.installation "jdk@a@b" = .ok ⟨"a@b", type, "g"⟩ ∧
          env.installation "jdk@jdk@a@b" = .ok ⟨"jdk@a@b", type, "h"⟩ := by
  intro installation document config files base
  have hread : Config.ofDocument document = .ok config := toOption_eq_some.1 (by decide +kernel)
  have hstored : storedSets files (config.storeFrom base) = .ok .empty := rfl
  obtain ⟨env, -, -, hload, -, -, -, -, -, hholds, -, hfound⟩ :=
    (ofConfig_faithful files base hread).2 .empty hstored
  obtain ⟨type, htype, hfirst⟩ := hfound ⟨"jdk", "a@b", "g"⟩ (.head _)
  obtain ⟨same, hsame, hsecond⟩ := hfound ⟨"jdk", "jdk@a@b", "h"⟩ (.tail _ (.head _))
  cases htype.symm.trans hsame
  exact ⟨hread, hstored, env, hload, hholds, type, htype, hfirst, hsecond⟩

end Environment

end ToolSites
