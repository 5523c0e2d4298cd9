import ToolSites.Proofs.OverrideSet
import ToolSites.Resolution
/-!
# Resolution by key

The home that an installation has on a node is decided by the entries with its key in the
set attached to the node: `resolveHome_eq` takes it from the first of them, as long as the
registry knows the type of the installation as the installation has it. Entries with other
keys have no part in it, whether their types are known or not (`resolveHome_congr`), and
an installation as it is on a node is the same when it is asked for there again
(`onNode_onNode`). `resolveHome_by_key` puts this together.
-/

namespace ToolSites

/-! ## Sets -/

/-- Comparing fails only on a type that is not known, and then the entry is passed over. -/
theorem Location.compare_eq_error {l : Location} {i : Installation} {types : TypeRegistry} {e : Error}
    (h : l.compare i types = .error e) :
    e = .unknownType l.typeId ∧ types.find? l.typeId = none ∧ l.appliesTo i types = false := by
  have happ : l.appliesTo i types = false := by rw [appliesTo, h]
  unfold compare at h
  split at h
  · unfold type TypeRegistry.get at h
    cases hf : types.find? l.typeId with
    | none =>
      rw [hf] at h
      cases h
      exact ⟨rfl, rfl, happ⟩
    | some t => rw [hf] at h; cases h
  · cases h

namespace OverrideSet

/-- The entries with the key, in order. -/
def withKey (s : OverrideSet) (key : String) : List Location :=
  s.locations.filter fun l => l.key.text = key

theorem homeFor_of_registered {i : Installation} {types : TypeRegistry}
    (hr : types.find? i.type.identifier = some i.type) (hfree : '@' ∉ i.type.identifier.toList)
    (s : OverrideSet) : s.homeFor i types = (s.withKey i.keyText).head?.map Location.home := by
  have happ : (fun l : Location => l.appliesTo i types) = fun l => decide (l.key.text = i.keyText) := by
    funext l
    rw [Bool.eq_iff_iff, Location.appliesTo_iff hr hfree, decide_eq_true_iff]
  rw [homeFor, happ, withKey, List.head?_filter]

/-- No entry is for an installation whose type is not the registered one. -/
theorem homeFor_of_not_registered {i : Installation} {types : TypeRegistry}
    (hr : types.find? i.type.identifier ≠ some i.type) (s : OverrideSet) : s.homeFor i types = none := by
  rw [homeFor, Option.map_eq_none_iff, List.find?_eq_none]
  intro l _ happ
  obtain ⟨-, htype⟩ := Location.appliesTo_eq_true.1 happ
  have hid : i.type.identifier = l.typeId := types.named htype
  exact hr (hid ▸ htype)

end OverrideSet

/-! ## Nodes -/

/-- The entries with the key in the set attached to the node, in order. -/
def entriesFor (nodes : NodeRegistry) (node : Node) (key : Key) : List Location :=
  ((nodes.overridesFor node).map fun set => set.withKey key.text).getD []

variable (nodes : NodeRegistry) (types : TypeRegistry) (node : Node)

/-- The home is that of the first entry with the installation's key, and the default home
where there is none or the type is not the registered one. -/
theorem resolveHome_eq {i : Installation} {key : Key} (hkey : i.key = .ok key) :
    resolveHome nodes types node i =
      if types.find? i.type.identifier = some i.type then
        ((entriesFor nodes node key).head?.map Location.home).getD i.home
      else i.home := by
  have hfree : '@' ∉ i.type.identifier.toList := by
    intro hm
    rw [Installation.key, Key.of, Key.of?, dif_pos hm] at hkey
    cases hkey
  cases (Installation.key_eq_ok hfree).symm.trans hkey
  unfold resolveHome overriddenHome entriesFor
  split
  · next hr =>
    cases nodes.overridesFor node with
    | none => rfl
    | some set => exact congrArg (Option.getD · i.home) (set.homeFor_of_registered hr hfree)
  · next hr =>
    cases nodes.overridesFor node with
    | none => rfl
    | some set => rw [Option.bind_some, set.homeFor_of_not_registered hr]; rfl

/-- Two registries with the same homes for the key at the node give the same home,
whatever else their sets hold. -/
theorem resolveHome_congr {other : NodeRegistry} {i : Installation} {key : Key} (hkey : i.key = .ok key)
    (h : (entriesFor other node key).map Location.home = (entriesFor nodes node key).map Location.home) :
    resolveHome other types node i = resolveHome nodes types node i := by
  rw [resolveHome_eq other types node hkey, resolveHome_eq nodes types node hkey, ← List.head?_map,
    ← List.head?_map, h]

theorem onNode_onNode (i : Installation) :
    (i.onNode nodes types node).onNode nodes types node = i.onNode nodes types node := by
  -- the lookup does not ask for the default home
  have hover : overriddenHome nodes types node (i.onNode nodes types node) =
      overriddenHome nodes types node i := rfl
  have hhome : resolveHome nodes types node (i.onNode nodes types node) =
      resolveHome nodes types node i := by
    show (overriddenHome _ _ _ _).getD (resolveHome nodes types node i) = _
    rw [hover, resolveHome]
    cases overriddenHome nodes types node i <;> rfl
  rw [Installation.onNode, hhome]
  rfl

/-- Resolving is a lookup by key. For an installation whose type fits into keys it gives the
home of the first entry with its key in the set attached to the node, if the registry knows
the type as the installation has it, and the default home if not, or if there is no such
entry or no set. On the way only an unknown type can fail, and such an entry is passed over.
So only the homes of the entries with that key count, in their order; and the installation
on the node differs from the installation in its home alone, and is itself on the node again. -/
theorem resolveHome_by_key (i : Installation) (hfree : '@' ∉ i.type.identifier.toList) :
    ∃ key, i.key = .ok key ∧
      (∀ (l : Location) (e : Error), l.compare i types = .error e →
        e = .unknownType l.typeId ∧ types.find? l.typeId = none ∧ l.appliesTo i types = false) ∧
      resolveHome nodes types node i =
        (if types.find? i.type.identifier = some i.type then
          ((entriesFor nodes node key).head?.map Location.home).getD i.home
        else i.home) ∧
      (∀ other : NodeRegistry,
        (entriesFor other node key).map Location.home = (entriesFor nodes node key).map Location.home →
        resolveHome other types node i = resolveHome nodes types node i) ∧
      i.onNode nodes types node = ⟨i.name, i.type, resolveHome nodes types node i⟩ ∧
      (i.onNode nodes types node).onNode nodes types node = i.onNode nodes types node := by
  have hkey := Installation.key_eq_ok hfree
  refine ⟨_, hkey, fun l e h => l.compare_eq_error h, resolveHome_eq nodes types node hkey, ?_, rfl,
    onNode_onNode nodes types node i⟩
  exact fun other h => resolveHome_congr nodes types node hkey h

/-- The first entry is of an unknown type and the last one repeats a key; the home comes from
the one between them. -/
theorem resolveHome_by_key_repeated :
    let type : ToolType := .declared ⟨"T", "T", by decide, by decide⟩
    let i : Installation := ⟨"a@b", type, "d"⟩
    let node : Node := ⟨"n", .agent, []⟩
    let set : OverrideSet := ⟨[.unresolved ⟨"X", "a@b", by decide⟩ "x", .resolved type "a@b" "h" (by decide),
      .unresolved ⟨"T", "a@b", by decide⟩ "g"]⟩
    let nodes : NodeRegistry := { NodeRegistry.empty.add node with overrides := .ofList [("n", set)] }
    '@' ∉ i.type.identifier.toList ∧ resolveHome nodes (TypeRegistry.empty.insert type) node i = "h" := by
  intro type i node set nodes
  have hfree : '@' ∉ i.type.identifier.toList := by decide
  obtain ⟨key, hkey, -, hhome, -⟩ := resolveHome_by_key nodes (TypeRegistry.empty.insert type) node i hfree
  cases (Installation.key_eq_ok hfree).symm.trans hkey
  exact ⟨hfree, hhome⟩

end ToolSites
