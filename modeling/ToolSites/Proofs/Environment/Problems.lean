import Mathlib.Data.List.Basic
import ToolSites.Proofs.Environment.Publishing
/-!
# Problems and resolution

Problems are found by keys: an entry is in order if its key is that of an installation and
none of an unknown type. Resolution goes by names and types instead. `serves_iff` says that
the two agree, as long as each installation stands under its own key and no other type is
registered under the identifier of its type (`Indexed`). Loading makes an environment so, and
it stays so when sets are published and types unregistered; hence an entry is reported
exactly when it is for no installation (`problems_eq`).
-/

namespace ToolSites.Environment

variable {config : Config} {start env after : Environment} {files left : FileTree}

/-! ## Runs -/

/-- The environment without a tool type. -/
def unregister (env : Environment) (identifier : String) : Environment :=
  { env with types := env.types.unregister identifier }

/-- The environment after sets were published, successfully or not, and types unregistered, in
any order. Each call finds files of its own. -/
inductive Reached (start : Environment) : Environment → Prop
  | none : Reached start start
  | publish {env after : Environment} {files left : FileTree} {node : String} {set : OverrideSet}
      {result : Except Error Unit} : Reached start env →
      env.publish files node set = (result, after, left) → Reached start after
  | unregister {env : Environment} (identifier : String) :
      Reached start env → Reached start (env.unregister identifier)

theorem Reached.nodes (h : Reached start env) : env.nodes.nodes = start.nodes.nodes := by
  induction h with
  | none => rfl
  | publish _ hpub ih => exact (publish_same hpub).1.nodes.trans ih
  | unregister _ _ ih => exact ih

/-! ## Installations -/

/-- Each installation stands under its own key, and under the identifier of its type the
registry knows that type or none. -/
structure Indexed (env : Environment) : Prop where
  keyed : ∀ {key i}, env.installations.find? key = some i → i.keyText = key
  separator_free : ∀ {key i}, env.installations.find? key = some i → '@' ∉ i.type.identifier.toList
  current : ∀ {key i type}, env.installations.find? key = some i →
    env.types.find? i.type.identifier = some type → type = i.type

theorem ofConfig_indexed {base : Path} (h : ofConfig files config base = .ok env) : Indexed env := by
  obtain ⟨stored, -, hassemble⟩ := ofConfig_eq_ok.1 h
  obtain ⟨types, installations, inlined, hparts, rfl⟩ := assemble_eq_ok.1 hassemble
  refine ⟨fun hi => (hparts.installation hi).1, fun hi => (hparts.installation hi).2.2, ?_⟩
  intro key i type hi htype
  obtain ⟨-, hregistered, -⟩ := hparts.installation hi
  exact Option.some.inj (htype.symm.trans hregistered)

/-- Fewer types and the same installations. -/
theorem Indexed.mono (h : Indexed env) (hinstallations : after.installations = env.installations)
    (htypes : ∀ identifier type, after.types.find? identifier = some type →
      env.types.find? identifier = some type) : Indexed after where
  keyed hi := h.keyed (hinstallations ▸ hi)
  separator_free hi := h.separator_free (hinstallations ▸ hi)
  current hi htype := h.current (hinstallations ▸ hi) (htypes _ _ htype)

theorem Reached.indexed (h : Reached start env) (hs : Indexed start) : Indexed env := by
  induction h with
  | none => exact hs
  | publish _ hpub ih =>
    obtain ⟨hsame, -⟩ := publish_same hpub
    exact ih.mono hsame.installations fun _ _ htype => hsame.types ▸ htype
  | unregister identifier _ ih =>
    refine ih.mono rfl fun other type htype => ?_
    exact NameMap.find?_of_erase htype

/-! ## Entries -/

/-- The entries of a node, in order. -/
def entriesAt (env : Environment) (node : Node) : List Location :=
  ((env.nodes.overridesFor node).map OverrideSet.locations).getD []

/-- Whether the entry is for some installation. -/
def serves (env : Environment) (l : Location) : Bool :=
  env.installations.values.any fun i => l.appliesTo i env.types

/-- What there is to report of an entry: nothing if it is for some installation, and otherwise
whether its type is known. -/
def report? (env : Environment) (node : String) (l : Location) : Option LocationProblem :=
  if env.serves l then none
  else if env.types.contains l.typeId then some (.noInstallation node l.key.text)
  else some (.unknownType node l.key.text l.typeId)

theorem serves_eq_true {l : Location} : env.serves l = true ↔
    ∃ i ∈ env.installations.values, l.compare i env.types = .ok true := by
  simp only [serves, List.any_eq_true, Location.compare_eq_true]

theorem mem_values {i : Installation} :
    i ∈ env.installations.values ↔ ∃ key, env.installations.find? key = some i := by
  simp only [NameMap.find?_eq_some_iff, NameMap.values, List.mem_map, Prod.exists, exists_eq_right]

/-- An entry is for an installation exactly when its type is known and its key is that of an
installation. -/
theorem serves_iff (h : Indexed env) (l : Location) : env.serves l = true ↔
    env.types.contains l.typeId = true ∧ env.installations.contains l.key.text = true := by
  rw [serves, List.any_eq_true]
  constructor
  · rintro ⟨i, hi, happ⟩
    obtain ⟨key, hkey⟩ := mem_values.1 hi
    obtain ⟨hname, htype⟩ := Location.appliesTo_eq_true.1 happ
    have hid : i.type.identifier = l.typeId := env.types.named htype
    have htext : l.key.text = key := by
      rw [← h.keyed hkey, Installation.keyText, hid, ← hname]
      rfl
    rw [TypeRegistry.find?] at htype
    rw [TypeRegistry.contains, NameMap.contains, htype, NameMap.contains, htext, hkey]
    exact ⟨rfl, rfl⟩
  · rintro ⟨hknown, hkey⟩
    obtain ⟨type, htype⟩ := Option.isSome_iff_exists.1 hknown
    obtain ⟨i, hi⟩ := Option.isSome_iff_exists.1 hkey
    -- the key tells the name and the identifier, and the identifier the type
    have hsplit : l.key = ⟨i.type.identifier, i.name, h.separator_free hi⟩ :=
      Key.text_injective (h.keyed hi).symm
    have hid : l.typeId = i.type.identifier := congrArg Key.typeId hsplit
    have hcurrent : type = i.type := h.current hi (hid ▸ htype)
    refine ⟨i, mem_values.2 ⟨_, hi⟩, Location.appliesTo_eq_true.2 ⟨congrArg Key.name hsplit, ?_⟩⟩
    rw [← hcurrent]
    exact htype

theorem report?_eq_none {node : String} {l : Location} :
    env.report? node l = none ↔ env.serves l = true := by
  unfold report?
  cases env.serves l <;> cases env.types.contains l.typeId <;> simp

theorem report?_eq_unknownType (h : Indexed env) {node : String} {l : Location} :
    env.report? node l = some (.unknownType node l.key.text l.typeId) ↔
      env.types.find? l.typeId = none := by
  have hserved : env.serves l = true → env.types.contains l.typeId = true :=
    fun hs => ((serves_iff h l).1 hs).1
  have hknown : env.types.find? l.typeId = none ↔ env.types.contains l.typeId = false :=
    Option.not_isSome_iff_eq_none.symm.trans (Bool.not_eq_true _).to_iff
  rw [hknown, report?]
  cases hs : env.serves l with
  | true => simp [hserved hs]
  | false => cases env.types.contains l.typeId <;> simp

/-! ## Problems -/

theorem entryProblem?_eq (h : Indexed env) (node : String) {set : OverrideSet} {l : Location}
    (hl : l ∈ set.locations) :
    env.entryProblem? node (set.staleKeys env.types) l = env.report? node l := by
  have hserves : env.serves l =
      (env.types.contains l.typeId && env.installations.contains l.key.text) := by
    rw [Bool.eq_iff_iff, serves_iff h, Bool.and_eq_true]
  rw [entryProblem?, report?, OverrideSet.contains_staleKeys hl, Location.isStale, hserves]
  cases env.types.contains l.typeId <;> cases env.installations.contains l.key.text <;> rfl

theorem nodeProblems_eq (h : Indexed env) (node : Node) :
    env.nodeProblems node = (env.entriesAt node).filterMap (env.report? node.name) := by
  rw [nodeProblems, entriesAt]
  cases env.nodes.overridesFor node with
  | none => rfl
  | some set => exact List.filterMap_congr fun _ hl => entryProblem?_eq h node.name hl

/-- The problems are the reports, node by node and entry by entry, and then the orphans. -/
theorem problems_eq (h : Indexed env) : env.problems =
    env.nodes.all.flatMap (fun node => (env.entriesAt node).filterMap (env.report? node.name)) ++
      env.orphaned.names.map .notCarried := by
  rw [problems, funext (nodeProblems_eq h)]

/-- Every set is carried by a node, and every entry is for some installation. -/
def AllResolve (env : Environment) : Prop :=
  env.orphaned.names = [] ∧ ∀ node ∈ env.nodes.all, ∀ l ∈ env.entriesAt node,
    ∃ i ∈ env.installations.values, l.compare i env.types = .ok true

theorem problems_eq_nil (h : Indexed env) : env.problems = [] ↔ env.AllResolve := by
  rw [problems_eq h, List.append_eq_nil_iff, List.map_eq_nil_iff, List.flatMap_eq_nil_iff, AllResolve,
    and_comm]
  refine and_congr_right' (forall₂_congr fun node _ => ?_)
  rw [List.filterMap_eq_nil_iff]
  exact forall₂_congr fun l _ => report?_eq_none.trans serves_eq_true

end ToolSites.Environment
