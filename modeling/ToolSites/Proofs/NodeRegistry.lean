import Mathlib.Data.List.Induction
import ToolSites.Resolution
/-!
# Controllers and their sets

A call on the registry of nodes says itself of which kind its node is. A node that is
registered again keeps the set under its name, of whichever kind it is by then, and a set is
refused for the kind that the caller names, not for the one that is registered. So there are
two ways in which a controller comes to a set (`Joins`), and there are no others:
`controllersBare_apply` says it of one call, and `controllers_bare_iff` of all states that
some calls go through.
-/

namespace ToolSites.NodeRegistry

/-! ## Calls -/

/-- A call that changes the registry. -/
inductive Operation
  | add (node : Node)
  | attach (node : Node) (set : OverrideSet)
  | detach (node : Node)
  | remove (node : Node)

/-- The registry after a call; one that is refused changes nothing. -/
def apply (r : NodeRegistry) : Operation → NodeRegistry
  | .add node => r.add node
  | .attach node set =>
    match r.attach node set with
    | .ok attached => attached
    | .error _ => r
  | .detach node => r.detach node
  | .remove node => r.remove node

/-- The registry after the calls, where nothing is registered before the first. -/
def run (operations : List Operation) : NodeRegistry := operations.foldl apply empty

theorem run_concat (operations : List Operation) (op : Operation) :
    run (operations ++ [op]) = (run operations).apply op := by
  rw [run, List.foldl_append]
  rfl

variable {r : NodeRegistry} {node : Node} {set : OverrideSet}

/-- A set is attached for a node of a registered name that is said to be an agent. -/
theorem apply_attach_of_agent (hkind : node.kind = .agent) (hknown : r.contains node.name = true) :
    r.apply (.attach node set) = { r with overrides := r.overrides.insert node.name set } := by
  simp [apply, attach, hkind, hknown, NodeKind.carriesOverrides]

/-- For all others the call is refused. -/
theorem apply_attach_of_refused (h : ¬ (node.kind = .agent ∧ r.contains node.name = true)) :
    r.apply (.attach node set) = r := by
  cases hkind : node.kind with
  | controller => simp [apply, attach, hkind, NodeKind.carriesOverrides]
  | agent =>
    have hknown : r.contains node.name = false := Bool.eq_false_iff.2 fun hc => h ⟨hkind, hc⟩
    simp [apply, attach, hkind, hknown, NodeKind.carriesOverrides]

/-! ## Controllers -/

/-- No controller has a set. -/
def ControllersBare (r : NodeRegistry) : Prop :=
  ∀ name node, r.nodes.find? name = some node → node.kind = .controller → r.overrides.find? name = none

/-- The call brings a controller and a set together: it registers a controller under a name
that has a set, or it calls a node that is registered as a controller an agent and attaches
a set to it. -/
def Joins (r : NodeRegistry) : Operation → Prop
  | .add node => node.kind = .controller ∧ r.overrides.find? node.name ≠ none
  | .attach node _ => node.kind = .agent ∧ (r.nodes.find? node.name).map Node.kind = some .controller
  | .detach _ => False
  | .remove _ => False

theorem controllersBare_empty : ControllersBare empty := by
  intro name node hn
  rw [empty, NameMap.find?_empty] at hn
  cases hn

theorem controllersBare_add (h : r.ControllersBare) (node : Node) :
    (r.add node).ControllersBare ↔ ¬ r.Joins (.add node) := by
  have hfind : ∀ name, (r.add node).nodes.find? name =
      if name = node.name then some node else r.nodes.find? name :=
    NameMap.find?_insert r.nodes node.name node
  constructor
  · rintro hbare ⟨hkind, hset⟩
    exact hset (hbare node.name node (by rw [hfind, if_pos rfl]) hkind)
  · intro hapart name other hn hkind
    rw [hfind] at hn
    split at hn
    · next hname =>
      cases hn
      by_contra hset
      exact hapart ⟨hkind, hname ▸ hset⟩
    · exact h name other hn hkind

theorem controllersBare_attach (h : r.ControllersBare) (node : Node) (set : OverrideSet) :
    (r.apply (.attach node set)).ControllersBare ↔ ¬ r.Joins (.attach node set) := by
  by_cases hdone : node.kind = .agent ∧ r.contains node.name = true
  · rw [apply_attach_of_agent hdone.1 hdone.2]
    constructor
    · rintro hbare ⟨-, hcontroller⟩
      obtain ⟨known, hknown, hkind⟩ := Option.map_eq_some_iff.1 hcontroller
      have hnone := hbare node.name known hknown hkind
      rw [NameMap.find?_insert, if_pos rfl] at hnone
      cases hnone
    · intro hapart name other hn hkind
      rw [NameMap.find?_insert]
      split
      · next hname =>
        exact absurd ⟨hdone.1, by rw [← hname, hn, Option.map_some, hkind]⟩ hapart
      · exact h name other hn hkind
  · rw [apply_attach_of_refused hdone]
    refine iff_of_true h ?_
    -- the name of a registered controller is known, so that only the kind can be the reason
    rintro ⟨hkind, hcontroller⟩
    obtain ⟨known, hknown, -⟩ := Option.map_eq_some_iff.1 hcontroller
    refine hdone ⟨hkind, ?_⟩
    rw [contains, NameMap.contains, hknown]
    rfl

theorem controllersBare_detach (h : r.ControllersBare) (node : Node) : (r.detach node).ControllersBare := by
  intro name other hn hkind
  show (r.overrides.erase node.name).find? name = none
  rw [NameMap.find?_erase, h name other hn hkind, ite_self]

theorem controllersBare_remove (h : r.ControllersBare) (node : Node) : (r.remove node).ControllersBare := by
  intro name other hn hkind
  show (r.overrides.erase node.name).find? name = none
  rw [NameMap.find?_erase, h name other (NameMap.find?_of_erase hn) hkind, ite_self]

/-- A call keeps the controllers without sets unless it joins one with a set. -/
theorem controllersBare_apply (h : r.ControllersBare) (op : Operation) :
    (r.apply op).ControllersBare ↔ ¬ r.Joins op := by
  cases op with
  | add node => exact controllersBare_add h node
  | attach node set => exact controllersBare_attach h node set
  | detach node => exact iff_of_true (controllersBare_detach h node) not_false
  | remove node => exact iff_of_true (controllersBare_remove h node) not_false

theorem ControllersBare.resolveHome (h : r.ControllersBare) (hknown : r.nodes.find? node.name = some node)
    (hkind : node.kind = .controller) (types : TypeRegistry) (i : Installation) :
    resolveHome r types node i = i.home := by
  rw [ToolSites.resolveHome, overriddenHome, overridesFor, h node.name node hknown hkind]
  rfl

/-! ## Runs -/

/-- As long as no call joins a controller with a set, none has one, and every installation has
its default home on each controller that is registered. Otherwise some controller has a set
at some time on the way. -/
theorem controllers_bare_iff (operations : List Operation) :
    ((∀ before, before <+: operations → (run before).ControllersBare) ↔
      ∀ before op, before ++ [op] <+: operations → ¬ (run before).Joins op) ∧
    ((∀ before op, before ++ [op] <+: operations → ¬ (run before).Joins op) →
      ∀ node : Node, (run operations).nodes.find? node.name = some node → node.kind = .controller →
        ∀ types i, ToolSites.resolveHome (run operations) types node i = i.home) := by
  have hruns : (∀ before, before <+: operations → (run before).ControllersBare) ↔
      ∀ before op, before ++ [op] <+: operations → ¬ (run before).Joins op := by
    constructor
    · intro hbare before op hp
      have hafter := hbare (before ++ [op]) hp
      rw [run_concat] at hafter
      exact (controllersBare_apply (hbare before ((List.prefix_append _ _).trans hp)) op).1 hafter
    · intro hapart before hp
      induction before using List.reverseRecOn with
      | nil => exact controllersBare_empty
      | append_singleton before op ih =>
        rw [run_concat]
        exact (controllersBare_apply (ih ((List.prefix_append _ _).trans hp)) op).2 (hapart before op hp)
  refine ⟨hruns, fun hapart node hknown hkind types i => ?_⟩
  exact (hruns.2 hapart operations List.prefix_rfl).resolveHome hknown hkind types i

/-- The agent `n` has a set, and is registered again as a controller: the controller has the
set, and `a` does not have its default home there. -/
theorem controller_readded_has_set :
    let agent : Node := ⟨"n", .agent, []⟩
    let controller : Node := ⟨"n", .controller, []⟩
    let type : ToolType := .declared ⟨"T", "T", by decide, by decide⟩
    let set : OverrideSet := ⟨[.unresolved ⟨"T", "a", by decide⟩ "h"]⟩
    let r := run [.add agent, .attach agent set, .add controller]
    r.nodes.find? "n" = some controller ∧ r.overridesFor controller = some set ∧
      ToolSites.resolveHome r (TypeRegistry.empty.insert type) controller ⟨"a", type, "b"⟩ = "h" := by
  decide

end ToolSites.NodeRegistry
