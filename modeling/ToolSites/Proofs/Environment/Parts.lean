import ToolSites.Environment
import ToolSites.Proofs.Config.Valid
import ToolSites.Proofs.OverrideSet
import ToolSites.Proofs.Tool.Registry
/-!
# The parts of an environment

`assemble_eq_ok` takes assembling apart: the types, installations and sets of a
configuration come from the configuration alone, and `arrange` puts them together with
what is stored. A configuration that was read has all parts (`parts_of_valid`), so that
it assembles with whatever is stored. Of the parts only what questions need is told: the type of an
installation is registered, its key is its own, and a node has the set that the
configuration lists.
-/

namespace ToolSites

/-! ## Types -/

theorem Descriptor.declare_eq_ok {identifier displayName : String} {d : Descriptor}
    (h : declare identifier displayName = .ok d) : d.identifier = identifier := by
  unfold declare at h
  split at h
  · cases h
  · split at h
    · cases h
    · cases h; rfl

theorem Descriptor.declare_of_fits {identifier : String} (h : fitsIntoKeys identifier = true)
    (displayName : String) : ∃ d, declare identifier displayName = .ok d := by
  simp only [fitsIntoKeys, Bool.and_eq_true, bne_iff_ne, ne_eq, Bool.not_eq_true',
    List.contains_eq_mem, decide_eq_false_iff_not] at h
  exact ⟨_, by rw [declare, dif_neg h.1, dif_neg h.2]⟩

namespace Environment

/-! ## Parts -/

/-- What a configuration is made into, before anything stored is looked at. -/
structure Parts (config : Config) (types : TypeRegistry) (installations : NameMap Installation)
    (inlined : NodeSets) : Prop where
  types_ok : declaredTypes config >>= TypeRegistry.ofList = .ok types
  installations_ok : declaredInstallations types config = .ok installations
  inlined_ok : inlineSets config = .ok inlined

variable {config : Config} {types : TypeRegistry} {installations : NameMap Installation}
  {inlined : NodeSets}

theorem assemble_eq_ok {path : Option Path} {stored : NodeSets} {env : Environment} :
    assemble config path stored = .ok env ↔ ∃ types installations inlined,
      Parts config types installations inlined ∧
        arrange types installations (declaredNodes config) path inlined stored = env := by
  constructor
  · intro h
    obtain ⟨declared, hd, h⟩ := bind_eq_ok.1 h
    obtain ⟨types, ht, h⟩ := bind_eq_ok.1 h
    obtain ⟨installations, hi, h⟩ := bind_eq_ok.1 h
    obtain ⟨inlined, hs, h⟩ := bind_eq_ok.1 h
    cases h
    exact ⟨types, installations, inlined, ⟨bind_eq_ok.2 ⟨declared, hd, ht⟩, hi, hs⟩, rfl⟩
  · rintro ⟨types, installations, inlined, ⟨ht, hi, hs⟩, rfl⟩
    obtain ⟨declared, hd, ht⟩ := bind_eq_ok.1 ht
    refine bind_eq_ok.2 ⟨declared, hd, bind_eq_ok.2 ⟨types, ht, ?_⟩⟩
    exact bind_eq_ok.2 ⟨installations, hi, bind_eq_ok.2 ⟨inlined, hs, rfl⟩⟩

theorem ofConfig_eq_ok [Host] {files : FileTree} {base : Path} {env : Environment} :
    ofConfig files config base = .ok env ↔ ∃ stored,
      storedSets files (config.storeFrom base) = .ok stored ∧
        assemble config (config.storeFrom base) stored = .ok env :=
  bind_eq_ok

theorem nodes_ofConfig {files : FileTree} {base : Path} {env : Environment}
    (h : ofConfig files config base = .ok env) : env.nodes.nodes = (declaredNodes config).nodes := by
  obtain ⟨stored, -, hassemble⟩ := ofConfig_eq_ok.1 h
  obtain ⟨types, installations, inlined, -, rfl⟩ := assemble_eq_ok.1 hassemble
  rfl

theorem load_eq_ok [Host] {files : FileTree} {vars : Variables} {path : Path} {env : Environment} :
    load files vars path = .ok env ↔ ∃ config base,
      Config.load files vars path = .ok config ∧ baseOf files path = .ok base ∧
        ofConfig files config base = .ok env := by
  unfold load
  simp only [bind_eq_ok]
  constructor
  · rintro ⟨config, hc, base, hb, h⟩
    exact ⟨config, base, hc, hb, h⟩
  · rintro ⟨config, base, hc, hb, h⟩
    exact ⟨config, hc, base, hb, h⟩

/-! ## Types and installations -/

/-- Every registered type was declared. -/
theorem Parts.declared (p : Parts config types installations inlined) {identifier : String}
    {type : ToolType} (h : types.find? identifier = some type) : ∃ d, type = .declared d := by
  obtain ⟨declared, hd, ht⟩ := bind_eq_ok.1 p.types_ok
  obtain ⟨e, -, he⟩ := mem_of_mapM hd (TypeRegistry.mem_ofList ht h)
  obtain ⟨d, -, rfl⟩ := map_eq_ok.1 he
  exact ⟨d, rfl⟩

theorem Parts.separator_free (p : Parts config types installations inlined) {identifier : String}
    {type : ToolType} (h : types.find? identifier = some type) : '@' ∉ identifier.toList := by
  obtain ⟨d, rfl⟩ := p.declared h
  exact types.named h ▸ d.separator_free

/-- An installation is found under its own key, and its type is the registered one. -/
theorem Parts.installation (p : Parts config types installations inlined) {key : String}
    {i : Installation} (h : installations.find? key = some i) :
    i.keyText = key ∧ types.find? i.type.identifier = some i.type ∧
      '@' ∉ i.type.identifier.toList := by
  obtain ⟨l, hl, rfl⟩ := map_eq_ok.1 p.installations_ok
  obtain ⟨spec, -, hs⟩ := mem_of_mapM hl (NameMap.mem_ofList (NameMap.find?_eq_some_iff.1 h))
  obtain ⟨type, ht, he⟩ := map_eq_ok.1 hs
  simp only [Prod.mk.injEq] at he
  obtain ⟨hkey, rfl⟩ := he
  have hf := TypeRegistry.get_eq_ok.1 ht
  have hid : type.identifier = spec.typeId := types.named hf
  exact ⟨hkey, by rw [hid, hf], by rw [hid]; exact p.separator_free hf⟩

/-- The entry that a configured installation has among those of the environment: its key,
its name and home, and the type that is registered for it. -/
def Installs (types : TypeRegistry) (spec : InstallationSpec) (e : String × Installation) : Prop :=
  e.1 = Key.textOf spec.typeId spec.name ∧
    ∃ type, types.get spec.typeId = .ok type ∧ e.2 = ⟨spec.name, type, spec.home⟩

/-- No two installations of a valid configuration have the same key. -/
theorem keys_nodup (hv : config.Valid) :
    (config.installations.map fun spec => Key.textOf spec.typeId spec.name).Nodup := by
  have hfree : ∀ spec ∈ config.installations, '@' ∉ spec.typeId.toList := by
    intro spec hs
    have hfits := hv.types_fit _ (hv.installations_declared spec hs)
    simp only [fitsIntoKeys, Bool.and_eq_true, Bool.not_eq_true', List.contains_eq_mem,
      decide_eq_false_iff_not] at hfits
    exact hfits.2
  rw [List.Nodup, List.pairwise_map]
  refine List.Pairwise.imp_of_mem ?_ (List.pairwise_map.1 hv.installations_nodup)
  intro s t hs ht hne he
  obtain ⟨hid, hname⟩ := Key.textOf_inj (hfree s hs) (hfree t ht) he
  exact hne (Prod.ext hid hname)

/-- The installations of a valid configuration have one entry each, in the same order. -/
theorem Parts.installs (p : Parts config types installations inlined) (hv : config.Valid) :
    List.Forall₂ (Installs types) config.installations installations.entries := by
  obtain ⟨l, hl, rfl⟩ := map_eq_ok.1 p.installations_ok
  have hmade : ∀ (spec : InstallationSpec) (e : String × Installation),
      ((types.get spec.typeId).map fun type =>
        let i : Installation := ⟨spec.name, type, spec.home⟩
        (i.keyText, i)) = .ok e → Installs types spec e := by
    intro spec e he
    obtain ⟨type, ht, rfl⟩ := map_eq_ok.1 he
    have hid : type.identifier = spec.typeId := types.named (TypeRegistry.get_eq_ok.1 ht)
    exact ⟨congrArg (Key.textOf · spec.name) hid, type, ht, rfl⟩
  have hnames : Entries.names l =
      config.installations.map fun spec => Key.textOf spec.typeId spec.name :=
    map_mapM hl fun spec _ e he => (hmade spec e he).1
  have hnodup : (Entries.names l).Nodup := hnames ▸ keys_nodup hv
  rw [NameMap.entries_ofList hnodup]
  exact (mapM_forall₂ hl).imp hmade

/-- A configured installation is found under its key, with the type that is registered. -/
theorem Parts.find?_installation (p : Parts config types installations inlined) (hv : config.Valid)
    {spec : InstallationSpec} (h : spec ∈ config.installations) :
    ∃ type, types.get spec.typeId = .ok type ∧
      installations.find? (Key.textOf spec.typeId spec.name) = some ⟨spec.name, type, spec.home⟩ := by
  obtain ⟨e, he, hkey, type, ht, hi⟩ := forall₂_mem (p.installs hv) h
  refine ⟨type, ht, NameMap.find?_eq_some_iff.2 ?_⟩
  rw [← hkey, ← hi]
  exact he

theorem Parts.installation_of_spec (p : Parts config types installations inlined) (hv : config.Valid)
    {spec : InstallationSpec} (h : spec ∈ config.installations) :
    ∃ i, installations.find? (Key.textOf spec.typeId spec.name) = some i ∧ i.home = spec.home := by
  obtain ⟨type, -, hfind⟩ := p.find?_installation hv h
  exact ⟨_, hfind, rfl⟩

/-! ## Configured sets -/

/-- The keys and homes that the configuration lists for a node, if it lists any. -/
def inlinePairs (config : Config) (node : String) : Option (List (String × String)) :=
  ((config.nodes.find? node).map NodeSpec.locations).filter fun pairs => !pairs.isEmpty

/-- The keys and homes of the set of a node. -/
def pairsAt (sets : NodeSets) (node : String) : Option (List (String × String)) :=
  (sets.find? node).map OverrideSet.pairs

/-- The configured sets are made of the pairs that the configuration lists. -/
theorem Parts.find?_inlined (p : Parts config types installations inlined) (node : String) :
    (inlinePairs config node).map OverrideSet.ofPairs = (inlined.find? node).map .ok := by
  obtain ⟨l, hl, rfl⟩ := map_eq_ok.1 p.inlined_ok
  have hfiltered : Entries.find? node (config.nodes.entries.filter fun e => !e.2.locations.isEmpty) =
      (config.nodes.find? node).filter fun spec => !spec.locations.isEmpty :=
    NameMap.find?_filter config.nodes (fun _ spec => !spec.locations.isEmpty) node
  have hlisted : inlinePairs config node =
      ((config.nodes.find? node).filter fun spec => !spec.locations.isEmpty).map NodeSpec.locations := by
    unfold inlinePairs
    cases config.nodes.find? node with
    | none => rfl
    | some spec => cases h : spec.locations.isEmpty <;> simp [Option.filter, h]
  have hnames : Entries.names l =
      Entries.names (config.nodes.filter fun _ spec => !spec.locations.isEmpty).entries :=
    map_mapM hl fun e _ b hb => by obtain ⟨set, -, rfl⟩ := map_eq_ok.1 hb; rfl
  have hfind := find?_mapM
    (f := fun spec : NodeSpec => (OverrideSet.ofPairs spec.locations).mapError Error.malformedKey) hl node
  rw [hfiltered] at hfind
  rw [NameMap.find?_ofList (hnames ▸ NameMap.nodup _), hlisted]
  cases hspec : (config.nodes.find? node).filter fun spec => !spec.locations.isEmpty with
  | none =>
    rw [hspec] at hfind
    rw [Option.map_eq_none_iff.1 hfind.symm]
    rfl
  | some spec =>
    rw [hspec] at hfind
    obtain ⟨set, hset, hok⟩ := Option.map_eq_some_iff.1 hfind.symm
    rw [hset, Option.map_some, Option.map_some, Option.map_some, mapError_eq_ok.1 hok.symm]

theorem Parts.pairsAt_inlined (p : Parts config types installations inlined) (node : String) :
    pairsAt inlined node = inlinePairs config node := by
  have hfind := p.find?_inlined node
  unfold pairsAt
  cases hpairs : inlinePairs config node with
  | none =>
    rw [hpairs] at hfind
    rw [Option.map_eq_none_iff.1 hfind.symm]
    rfl
  | some pairs =>
    rw [hpairs] at hfind
    obtain ⟨set, hset, hok⟩ := Option.map_eq_some_iff.1 hfind.symm
    rw [hset, Option.map_some, OverrideSet.pairs_ofPairs hok.symm]

/-! ## Assembly -/

/-- The types of a valid configuration register, and each is found. -/
theorem types_of_valid (hv : config.Valid) : ∃ types,
    declaredTypes config >>= TypeRegistry.ofList = .ok types ∧
      ∀ identifier ∈ config.toolTypes.names, ∃ type, types.get identifier = .ok type := by
  have hdeclare : ∀ e ∈ config.toolTypes.entries, ∃ type,
      (Descriptor.declare e.1 e.2).map ToolType.declared = .ok type := by
    intro e he
    obtain ⟨d, hd⟩ := Descriptor.declare_of_fits (hv.types_fit e.1 (List.mem_map_of_mem he)) e.2
    exact ⟨.declared d, by rw [hd]; rfl⟩
  obtain ⟨declared, hd⟩ := mapM_defined hdeclare
  have hids : declared.map ToolType.identifier = config.toolTypes.names :=
    map_mapM hd fun e _ type ht => by
      obtain ⟨d, hd, rfl⟩ := map_eq_ok.1 ht
      exact Descriptor.declare_eq_ok hd
  -- the identifiers are the names of a map, so that none is registered twice
  have hnodup : (declared.map ToolType.identifier).Nodup := hids ▸ config.toolTypes.nodup
  obtain ⟨types, ht, hfind⟩ := TypeRegistry.register_all (r := .empty) hnodup fun _ _ => rfl
  refine ⟨types, bind_eq_ok.2 ⟨declared, hd, ht⟩, fun identifier hi => ?_⟩
  obtain ⟨type, hm, hid⟩ := List.mem_map.1 (hids ▸ hi)
  have hsome : (declared.find? fun type => type.identifier = identifier).isSome := by
    rw [List.find?_isSome]
    exact ⟨type, hm, by simpa using hid⟩
  obtain ⟨found, hfound⟩ := Option.isSome_iff_exists.1 hsome
  exact ⟨found, by rw [TypeRegistry.get, hfind, hfound]; rfl⟩

theorem inlineSets_of_valid (hv : config.Valid) : ∃ inlined, inlineSets config = .ok inlined := by
  have hset : ∀ e ∈ config.nodes.entries.filter fun e => !e.2.locations.isEmpty, ∃ b,
      (((OverrideSet.ofPairs e.2.locations).mapError Error.malformedKey).map fun set => (e.1, set)) =
        .ok b := by
    intro e he
    obtain ⟨locations, hloc⟩ := mapM_defined (l := e.2.locations)
      (f := fun pair : String × String => Location.ofKey pair.1 pair.2) fun pair hp => by
        obtain ⟨k, hk⟩ := hv.keys_parse e (List.mem_filter.1 he).1 pair hp
        exact ⟨_, by rw [Location.ofKey, hk]; rfl⟩
    exact ⟨_, by rw [OverrideSet.ofPairs, hloc]; rfl⟩
  obtain ⟨l, hl⟩ := mapM_defined hset
  exact ⟨.ofList l, by rw [inlineSets, hl]; rfl⟩

/-- A valid configuration has its parts. -/
theorem parts_of_valid (hv : config.Valid) :
    ∃ types installations inlined, Parts config types installations inlined := by
  obtain ⟨types, htypes, hget⟩ := types_of_valid hv
  obtain ⟨inlined, hinlined⟩ := inlineSets_of_valid hv
  have hmake : ∀ spec ∈ config.installations, ∃ e,
      ((types.get spec.typeId).map fun type =>
        let i : Installation := ⟨spec.name, type, spec.home⟩
        (i.keyText, i)) = .ok e := by
    intro spec hs
    obtain ⟨type, ht⟩ := hget spec.typeId (hv.installations_declared spec hs)
    exact ⟨_, by rw [ht]; rfl⟩
  obtain ⟨l, hl⟩ := mapM_defined hmake
  exact ⟨types, .ofList l, inlined, htypes, by rw [declaredInstallations, hl]; rfl, hinlined⟩

end Environment

end ToolSites
