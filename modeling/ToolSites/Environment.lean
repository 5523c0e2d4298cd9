import ToolSites.Config.Load
import ToolSites.Resolution
import ToolSites.Store
/-!
# Environments

An environment is what a controller knows once its configuration and its store
are read: types, installations, nodes, and the set of each node. A stored set
takes the place of the configured one. Sets of names that cannot carry them are
kept aside as orphans, so that nothing is lost when the store is written again.
Publishing a set attaches it and writes the orphans and all sets that were
stored or published.
-/

namespace ToolSites

/-- What a controller knows. -/
structure Environment where
  types : TypeRegistry
  /-- The installations by the text of their key. -/
  installations : NameMap Installation
  nodes : NodeRegistry
  /-- Where sets are stored. -/
  storePath : Option Path
  /-- The sets whose node is not declared or cannot carry them. -/
  orphaned : NodeSets
  /-- The sets that were read from the store or published since. -/
  persisted : NodeSets

namespace Environment

/-! ## Assembly -/

/-- The tool types that are configured. -/
def declaredTypes (config : Config) : Except Error (List ToolType) :=
  config.toolTypes.entries.mapM fun e =>
    (Descriptor.declare e.1 e.2).map ToolType.declared

/-- The installations that are configured. -/
def declaredInstallations (types : TypeRegistry) (config : Config) :
    Except Error (NameMap Installation) :=
  (config.installations.mapM fun spec =>
    (types.get spec.typeId).map fun type =>
      let i : Installation := ⟨spec.name, type, spec.home⟩
      (i.keyText, i)).map NameMap.ofList

/-- The nodes that are configured. -/
def declaredNodes (config : Config) : NodeRegistry :=
  NodeRegistry.ofList (config.nodes.entries.map fun e => ⟨e.1, e.2.kind, e.2.labels⟩)

/-- The sets that are configured; a node without locations has none. -/
def inlineSets (config : Config) : Except Error NodeSets :=
  ((config.nodes.entries.filter fun e => !e.2.locations.isEmpty).mapM fun e =>
    ((OverrideSet.ofPairs e.2.locations).mapError .malformedKey).map fun set => (e.1, set)).map
    NameMap.ofList

/-- Whether the name is that of a node that can carry a set. -/
def carries (nodes : NodeRegistry) (name : String) : Bool :=
  match nodes.nodes.find? name with
  | some node => node.kind.carriesOverrides
  | none => false

/-- Puts each set where it belongs: a stored set takes the place of the configured
one, the sets of nodes that can carry them are attached, and the others are
orphans. Of the attached ones those that were stored are kept track of. -/
def arrange (types : TypeRegistry) (installations : NameMap Installation) (nodes : NodeRegistry)
    (storePath : Option Path) (inlined stored : NodeSets) : Environment :=
  let sets := inlined.merge stored
  let attached := (sets.filter fun name _ => carries nodes name).map fun set => set.resolved types
  { types
    installations
    nodes := { nodes with overrides := attached }
    storePath
    orphaned := sets.filter fun name _ => !carries nodes name
    persisted := attached.filter fun name _ => stored.contains name }

/-- The environment of a configuration and the sets that are stored. -/
def assemble (config : Config) (storePath : Option Path) (stored : NodeSets) :
    Except Error Environment := do
  let types ← TypeRegistry.ofList (← declaredTypes config)
  let installations ← declaredInstallations types config
  let inlined ← inlineSets config
  return arrange types installations (declaredNodes config) storePath inlined stored

/-- What assembling tells once the types are registered: of each set, in order,
that it was ignored, or how it was resolved and that it was published. -/
def placementEvents (config : Config) (types : TypeRegistry) (sets : NodeSets) : List Event :=
  sets.entries.flatMap fun (name, set) =>
    if carries (declaredNodes config) name then
      set.resolvedEvents types ++ [.setPublished set.size name]
    else [.setIgnored name]

/-! ## Loading -/

/-- The directory in which the file at the path stands. -/
def baseOf (files : FileTree) (path : Path) : Except Error Path :=
  ((files.locate path).mapError .file).map fun place => ⟨.slash, place.dropLast⟩

/-- The sets that are stored for a configuration. -/
def storedSets [Host] (files : FileTree) : Option Path → Except Error NodeSets
  | none => .ok .empty
  | some path => Store.load files path

/-- The environment of a configuration whose store is looked for from the directory
`base`. -/
def ofConfig [Host] (files : FileTree) (config : Config) (base : Path) : Except Error Environment := do
  let storePath := config.storeFrom base
  assemble config storePath (← storedSets files storePath)

/-- The environment of the configuration at the path. -/
def load [Host] (files : FileTree) (vars : Variables) (path : Path) : Except Error Environment := do
  let config ← Config.load files vars path
  ofConfig files config (← baseOf files path)

/-- What loading a configuration tells after it was read. -/
def assemblyEvents [Host] (files : FileTree) (config : Config) (base : Path) : List Event :=
  let storePath := config.storeFrom base
  let registered := match declaredTypes config with
    | .ok types => TypeRegistry.ofListEvents types
    | .error _ => []
  let opened := match storePath with
    | some path => Store.loadEvents files path
    | none => []
  let placed := match storedSets files storePath, inlineSets config, declaredTypes config with
    | .ok stored, .ok inlined, .ok types =>
      match TypeRegistry.ofList types with
      | .ok registry => placementEvents config registry (inlined.merge stored)
      | .error _ => []
    | _, _, _ => []
  registered ++ opened ++ placed

/-- What loading tells. -/
def loadEvents [Host] (files : FileTree) (vars : Variables) (path : Path) : List Event :=
  match Config.load files vars path, baseOf files path with
  | .ok config, .ok base => assemblyEvents files config base
  | _, _ => []

/-! ## Questions -/

/-- The installation of a key. -/
def installation (env : Environment) (key : String) : Except Error Installation :=
  match env.installations.find? key with
  | some i => .ok i
  | none => .error (.unknownInstallation key)

/-- The node and the installation that a question is about. -/
def subject (env : Environment) (node key : String) : Except Error (Node × Installation) := do
  let node ← env.nodes.get node
  return (node, ← env.installation key)

/-- The home of an installation on a node. -/
def resolve (env : Environment) (node key : String) : Except Error String :=
  (env.subject node key).map fun (node, i) => resolveHome env.nodes env.types node i

/-- What resolving tells. -/
def resolveEvents (env : Environment) (node key : String) : List Event :=
  match env.subject node key with
  | .ok (node, i) => resolveHomeEvents env.nodes env.types node i
  | .error _ => []

/-- The entries of a node as lists show them; none if the node has no set. -/
def describe (env : Environment) (node : String) : Except Error (List OverrideSet.Row) :=
  (env.nodes.get node).map fun node =>
    ((env.nodes.overridesFor node).map fun set => set.rows env.types).getD []

/-! ## Publishing -/

/-- The sets that the store holds after publishing. -/
def toStore (env : Environment) : NodeSets := env.orphaned.merge env.persisted

/-- The environment with the set attached to a node. -/
def attach (env : Environment) (name : String) (set : OverrideSet) : Except Error Environment := do
  let node ← env.nodes.get name
  let set := set.resolved env.types
  let nodes ← env.nodes.attach node set
  match env.storePath with
  | none => return { env with nodes }
  | some _ => return { env with nodes, persisted := env.persisted.insert name set }

/-- Attaches a set to a node and writes the store, if there is one. A store that
cannot be written leaves the set attached. -/
def publish [Host] (env : Environment) (files : FileTree) (node : String) (set : OverrideSet) :
    Except Error Unit × Environment × FileTree :=
  match env.attach node set with
  | .error e => (.error e, env, files)
  | .ok env =>
    match env.storePath with
    | none => (.ok (), env, files)
    | some path =>
      let (saved, files) := Store.save files path env.toStore
      (saved, env, files)

/-- What publishing tells. -/
def publishEvents [Host] (env : Environment) (files : FileTree) (node : String) (set : OverrideSet) :
    List Event :=
  match env.nodes.get node with
  | .error _ => []
  | .ok _ =>
    set.resolvedEvents env.types ++
      match env.attach node set with
      | .error _ => []
      | .ok env =>
        .setPublished set.size node ::
          match env.storePath with
          | none => []
          | some path =>
            match Store.save files path env.toStore with
            | (.ok (), _) => [.storeSaved env.toStore.size path]
            | (.error _, _) => []

end Environment

end ToolSites
