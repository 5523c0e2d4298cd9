import ToolSites.Proofs.NodeRegistry
/-!
# What the registry of nodes remembers

The registry after some calls is read off the calls themselves. `Stands` says of a call that no
later one has undone it, and everything else is said in terms of it: which names are
registered, under which node and since when (`Registered`, `LastAdded`, `Arrived`), and which
set a name has (`LastAttached`). Each of them has a law for one more call, beside which the
registry changes in the same way; `run_tells_history` puts them together. Calls for other
names play no part in any of it: forgetting them is forgetting the names (`run_filter`).
-/

namespace ToolSites

namespace NodeRegistry

/-! ## Some of the names -/

/-- The name that the call is for. -/
def Operation.name : Operation → String
  | .add node | .attach node _ | .detach node | .remove node => node.name

/-- The registry with some of its names only. -/
def restrict (r : NodeRegistry) (p : String → Bool) : NodeRegistry where
  nodes := r.nodes.filter fun name _ => p name
  overrides := r.overrides.filter fun name _ => p name
  named h := by
    rw [NameMap.find?_filter_name] at h
    split at h
    · exact r.named h
    · cases h

variable {r : NodeRegistry} {p : String → Bool} {name : String} {node : Node} {set : OverrideSet}

theorem overridesFor_restrict (hp : p node.name = true) :
    (r.restrict p).overridesFor node = r.overridesFor node := by
  show (r.overrides.filter _).find? _ = _
  rw [NameMap.find?_filter_name, if_pos hp, overridesFor]

theorem get_restrict (hp : p name = true) : (r.restrict p).get name = r.get name := by
  have hfind : (r.restrict p).nodes.find? name = r.nodes.find? name := by
    show (r.nodes.filter _).find? _ = _
    rw [NameMap.find?_filter_name, if_pos hp]
  rw [get, hfind, get]

theorem contains_restrict : (r.restrict p).contains name = (p name && r.contains name) := by
  rw [contains, contains, NameMap.contains, NameMap.contains]
  show ((r.nodes.filter fun name _ => p name).find? name).isSome = _
  rw [NameMap.find?_filter_name]
  cases p name <;> rfl

theorem name_of_mem {e : String × Node} (h : e ∈ r.nodes.entries) : e.2.name = e.1 :=
  r.named (NameMap.find?_eq_some_iff.2 h)

theorem names_all (r : NodeRegistry) : r.all.map Node.name = r.nodes.names := by
  rw [all, NameMap.values, List.map_map, NameMap.names, Entries.names]
  exact List.map_congr_left fun e he => name_of_mem he

theorem mem_all : node ∈ r.all ↔ r.nodes.find? node.name = some node := by
  rw [all, NameMap.values, List.mem_map, NameMap.find?_eq_some_iff]
  constructor
  · rintro ⟨e, he, rfl⟩
    rw [name_of_mem he]
    exact he
  · exact fun h => ⟨_, h, rfl⟩

theorem all_restrict : (r.restrict p).all = r.all.filter fun node => p node.name := by
  show (r.nodes.entries.filter fun e => p e.1).map Prod.snd = (r.nodes.entries.map Prod.snd).filter _
  rw [List.filter_map]
  congr 1
  exact List.filter_congr fun e he => by rw [Function.comp, name_of_mem he]

theorem eq_of_maps {s : NodeRegistry} (hnodes : r.nodes = s.nodes) (hoverrides : r.overrides = s.overrides) :
    r = s := by
  cases r
  cases s
  cases hnodes
  cases hoverrides
  rfl

/-- A call for a name that is left out is not seen, and any other does the same to what is left. -/
theorem restrict_apply (r : NodeRegistry) (p : String → Bool) (op : Operation) :
    (r.apply op).restrict p = if p op.name then (r.restrict p).apply op else r.restrict p := by
  cases op with
  | add node =>
    have hnodes := NameMap.filter_insert r.nodes p node.name node
    cases hp : p node.name <;> rw [hp] at hnodes <;>
      simp only [Operation.name, hp, Bool.false_eq_true, if_false, if_true] <;>
      exact eq_of_maps hnodes rfl
  | attach node set =>
    by_cases hdone : node.kind = .agent ∧ r.contains node.name = true
    · have hoverrides := NameMap.filter_insert r.overrides p node.name set
      rw [apply_attach_of_agent hdone.1 hdone.2]
      cases hp : p node.name with
      | false =>
        rw [hp] at hoverrides
        simp only [Operation.name, hp, Bool.false_eq_true, if_false]
        exact eq_of_maps rfl hoverrides
      | true =>
        rw [hp] at hoverrides
        have hknown : (r.restrict p).contains node.name = true := by rw [contains_restrict, hp, hdone.2]; rfl
        simp only [Operation.name, hp, if_true]
        rw [apply_attach_of_agent hdone.1 hknown]
        exact eq_of_maps rfl hoverrides
    · rw [apply_attach_of_refused hdone]
      split
      · next hp =>
        rw [apply_attach_of_refused]
        rintro ⟨hkind, hknown⟩
        rw [contains_restrict, Bool.and_eq_true] at hknown
        exact hdone ⟨hkind, hknown.2⟩
      · rfl
  | detach node =>
    have hoverrides := NameMap.filter_erase r.overrides p node.name
    cases hp : p node.name <;> rw [hp] at hoverrides <;>
      simp only [Operation.name, hp, Bool.false_eq_true, if_false, if_true] <;>
      exact eq_of_maps rfl hoverrides
  | remove node =>
    have hnodes := NameMap.filter_erase r.nodes p node.name
    have hoverrides := NameMap.filter_erase r.overrides p node.name
    cases hp : p node.name <;> rw [hp] at hnodes hoverrides <;>
      simp only [Operation.name, hp, Bool.false_eq_true, if_false, if_true] <;>
      exact eq_of_maps hnodes hoverrides

/-- What becomes of some names is decided by the calls for these names. -/
theorem run_filter (p : String → Bool) (operations : List Operation) :
    (run operations).restrict p = run (operations.filter fun op => p op.name) := by
  induction operations using List.reverseRecOn with
  | nil => rfl
  | append_singleton operations op ih =>
    rw [run_concat, restrict_apply, ih, List.filter_append]
    cases hp : p op.name with
    | true =>
      have hone : [op].filter (fun op => p op.name) = [op] := List.filter_cons_of_pos hp
      rw [if_pos rfl, hone, run_concat]
    | false =>
      have hnone : [op].filter (fun op => p op.name) = [] :=
        List.filter_cons_of_neg (p := fun op : Operation => p op.name) (Bool.eq_false_iff.1 hp)
      rw [if_neg Bool.false_ne_true, hnone, List.append_nil]

/-! ## Histories -/

/-- The call `op` comes after the calls `before`, and none of the later ones undoes it.
`undoes earlier later` says it of a call `later` that comes after the calls `earlier`. -/
def Stands (undoes : List Operation → Operation → Prop) (operations before : List Operation)
    (op : Operation) : Prop :=
  before ++ [op] <+: operations ∧ ∀ earlier later, before ++ [op] <+: earlier →
    earlier ++ [later] <+: operations → ¬ undoes earlier later

variable {undoes : List Operation → Operation → Prop} {operations before later : List Operation}
  {op new : Operation}

theorem not_stands_nil : ¬ Stands undoes [] before op := by
  rintro ⟨hp, -⟩
  exact List.append_ne_nil_of_right_ne_nil _ (List.cons_ne_nil _ _) (List.prefix_nil.1 hp)

/-- With one more call, a call stands that has just been made, and one that stood and is not
undone by it. -/
theorem stands_concat : Stands undoes (operations ++ [new]) before op ↔
    (before = operations ∧ op = new) ∨ (Stands undoes operations before op ∧ ¬ undoes operations new) := by
  constructor
  · rintro ⟨hp, hlater⟩
    rcases List.prefix_concat_iff.1 hp with he | hp
    · exact .inl (List.append_singleton_inj.1 he)
    · refine .inr ⟨⟨hp, fun earlier later hb he => ?_⟩, hlater operations new hp List.prefix_rfl⟩
      exact hlater earlier later hb (he.trans (List.prefix_append _ _))
  · rintro (⟨rfl, rfl⟩ | ⟨⟨hp, hlater⟩, hnew⟩)
    · refine ⟨List.prefix_rfl, fun earlier later hb he => ?_⟩
      -- nothing comes after the last call
      have hle := hb.length_le
      have hlt := he.length_le
      simp only [List.length_append, List.length_singleton] at hle hlt
      omega
    · refine ⟨hp.trans (List.prefix_append _ _), fun earlier later hb he => ?_⟩
      rcases List.prefix_concat_iff.1 he with he | he
      · obtain ⟨rfl, rfl⟩ := List.append_singleton_inj.1 he
        exact hnew
      · exact hlater earlier later hb he

/-! ## Names -/

/-- The call registers a node under the name. -/
def Operation.Adds (name : String) : Operation → Prop
  | .add node => node.name = name
  | _ => False

/-- The call removes the name. -/
def Operation.Removes (name : String) : Operation → Prop
  | .remove node => node.name = name
  | _ => False

/-- A node was registered under the name, and the name was not removed since. -/
def Registered (operations : List Operation) (name : String) : Prop :=
  ∃ before op, op.Adds name ∧ Stands (fun _ later => later.Removes name) operations before op

/-- The node was registered, and since then its name was neither removed nor registered again. -/
def LastAdded (operations : List Operation) (node : Node) : Prop :=
  ∃ before, Stands (fun _ later => later.Removes node.name ∨ later.Adds node.name) operations before
    (.add node)

/-- The name was first registered after the calls `before`, since it was last removed. -/
def Arrived (operations before : List Operation) (name : String) : Prop :=
  ∃ op, op.Adds name ∧ ¬ Registered before name ∧
    Stands (fun _ later => later.Removes name) operations before op

theorem registered_concat : Registered (operations ++ [new]) name ↔
    new.Adds name ∨ (Registered operations name ∧ ¬ new.Removes name) := by
  simp only [Registered, stands_concat]
  constructor
  · rintro ⟨before, op, hadds, ⟨rfl, rfl⟩ | ⟨hs, hnew⟩⟩
    · exact .inl hadds
    · exact .inr ⟨⟨before, op, hadds, hs⟩, hnew⟩
  · rintro (hadds | ⟨⟨before, op, hadds, hs⟩, hnew⟩)
    · exact ⟨operations, new, hadds, .inl ⟨rfl, rfl⟩⟩
    · exact ⟨before, op, hadds, .inr ⟨hs, hnew⟩⟩

theorem lastAdded_concat : LastAdded (operations ++ [new]) node ↔ new = .add node ∨
    (LastAdded operations node ∧ ¬ new.Removes node.name ∧ ¬ new.Adds node.name) := by
  simp only [LastAdded, stands_concat, not_or]
  constructor
  · rintro ⟨before, ⟨-, rfl⟩ | ⟨hs, hnew⟩⟩
    · exact .inl rfl
    · exact .inr ⟨⟨before, hs⟩, hnew⟩
  · rintro (rfl | ⟨⟨before, hs⟩, hnew⟩)
    · exact ⟨operations, .inl ⟨rfl, rfl⟩⟩
    · exact ⟨before, .inr ⟨hs, hnew⟩⟩

theorem arrived_concat : Arrived (operations ++ [new]) before name ↔
    (before = operations ∧ new.Adds name ∧ ¬ Registered operations name) ∨
      (Arrived operations before name ∧ ¬ new.Removes name) := by
  simp only [Arrived, stands_concat]
  constructor
  · rintro ⟨op, hadds, hnew, ⟨rfl, rfl⟩ | ⟨hs, hkept⟩⟩
    · exact .inl ⟨rfl, hadds, hnew⟩
    · exact .inr ⟨⟨op, hadds, hnew, hs⟩, hkept⟩
  · rintro (⟨rfl, hadds, hnew⟩ | ⟨⟨op, hadds, hnew, hs⟩, hkept⟩)
    · exact ⟨new, hadds, hnew, .inl ⟨rfl, rfl⟩⟩
    · exact ⟨op, hadds, hnew, .inr ⟨hs, hkept⟩⟩

theorem Arrived.registered (h : Arrived operations before name) : Registered operations name := by
  obtain ⟨op, hadds, -, hs⟩ := h
  exact ⟨before, op, hadds, hs⟩

theorem Arrived.length_lt (h : Arrived operations before name) : before.length < operations.length := by
  obtain ⟨op, -, -, hp, -⟩ := h
  have hle := hp.length_le
  rwa [List.length_append, List.length_singleton] at hle

theorem Operation.Adds.not_removes (h : op.Adds name) : ¬ op.Removes name := by
  cases op with
  | add node => exact not_false
  | _ => cases h

theorem registered_iff_arrived : Registered operations name ↔ ∃ before, Arrived operations before name := by
  refine ⟨fun h => ?_, fun ⟨before, h⟩ => h.registered⟩
  induction operations using List.reverseRecOn with
  | nil => obtain ⟨before, op, -, hs⟩ := h; exact absurd hs not_stands_nil
  | append_singleton operations op ih =>
    simp only [arrived_concat]
    rcases registered_concat.1 h with hadds | ⟨hr, hkept⟩
    · by_cases hr : Registered operations name
      · obtain ⟨before, hb⟩ := ih hr
        exact ⟨before, .inr ⟨hb, hadds.not_removes⟩⟩
      · exact ⟨operations, .inl ⟨rfl, hadds, hr⟩⟩
    · obtain ⟨before, hb⟩ := ih hr
      exact ⟨before, .inr ⟨hb, hkept⟩⟩

/-! ## Nodes -/

/-- What one more call does to the nodes. -/
theorem nodes_concat (operations : List Operation) (op : Operation) :
    (run (operations ++ [op])).nodes = match op with
      | .add node => (run operations).nodes.insert node.name node
      | .remove node => (run operations).nodes.erase node.name
      | _ => (run operations).nodes := by
  rw [run_concat]
  cases op with
  | attach node set =>
    by_cases hdone : node.kind = .agent ∧ (run operations).contains node.name = true
    · rw [apply_attach_of_agent hdone.1 hdone.2]
    · rw [apply_attach_of_refused hdone]
  | _ => rfl

theorem find?_nodes_run : (run operations).nodes.find? name = some node ↔
    node.name = name ∧ LastAdded operations node := by
  induction operations using List.reverseRecOn with
  | nil =>
    refine iff_of_false (fun h => ?_) ?_
    · cases h
    · rintro ⟨-, before, hs⟩
      exact not_stands_nil hs
  | append_singleton operations op ih =>
    rw [nodes_concat, lastAdded_concat]
    cases op with
    | add other =>
      simp only [Operation.add.injEq, Operation.Adds, Operation.Removes, not_false_eq_true, true_and]
      rw [NameMap.find?_insert]
      by_cases hn : name = other.name
      · rw [if_pos hn, Option.some.injEq]
        constructor
        · rintro rfl
          exact ⟨hn.symm, .inl rfl⟩
        · rintro ⟨hname, he | ⟨-, hne⟩⟩
          · exact he
          · exact absurd (hn.symm.trans hname.symm) hne
      · rw [if_neg hn, ih]
        refine and_congr_right fun hname => ?_
        constructor
        · exact fun h => .inr ⟨h, fun he => hn (by rw [he, hname])⟩
        · rintro (rfl | ⟨h, -⟩)
          · exact absurd hname.symm hn
          · exact h
    | remove other =>
      simp only [reduceCtorEq, Operation.Adds, Operation.Removes, not_false_eq_true, and_true, false_or]
      rw [NameMap.find?_erase]
      by_cases hn : name = other.name
      · rw [if_pos hn]
        refine iff_of_false (fun h => nomatch h) ?_
        rintro ⟨hname, -, hne⟩
        exact hne (hn.symm.trans hname.symm)
      · rw [if_neg hn, ih]
        refine and_congr_right fun hname => ?_
        exact (and_iff_left fun he => hn (by rw [he, hname])).symm
    | attach => simpa [Operation.Adds, Operation.Removes] using ih
    | detach => simpa [Operation.Adds, Operation.Removes] using ih

theorem mem_names_run : name ∈ (run operations).nodes.names ↔ Registered operations name := by
  induction operations using List.reverseRecOn with
  | nil =>
    refine iff_of_false (List.not_mem_nil) ?_
    rintro ⟨before, op, -, hs⟩
    exact not_stands_nil hs
  | append_singleton operations op ih =>
    rw [registered_concat, nodes_concat, ← ih]
    cases op with
    | add other =>
      simp only [Operation.Adds, Operation.Removes, not_false_eq_true, and_true]
      rw [NameMap.names_insert]
      split
      · next hm => exact ⟨.inr, fun h => h.elim (fun he => he ▸ hm) id⟩
      · rw [List.mem_append, List.mem_singleton, or_comm, eq_comm]
    | remove other =>
      simp only [Operation.Adds, Operation.Removes, false_or]
      rw [NameMap.names_erase, List.mem_filter, bne_iff_ne, ne_comm]
    | attach => simp [Operation.Adds, Operation.Removes]
    | detach => simp [Operation.Adds, Operation.Removes]

theorem contains_run : (run operations).contains name = true ↔ Registered operations name :=
  NameMap.contains_iff.trans mem_names_run

/-- Of two names the first is the one that arrived first. -/
def InOrder (operations : List Operation) (first second : String) : Prop :=
  ∀ before later, Arrived operations before first → Arrived operations later second →
    before.length < later.length

/-- One more call does not change when a name arrived that was there before. -/
theorem InOrder.concat {first second : String} (h : InOrder operations first second)
    (hfirst : Registered operations first) (hsecond : Registered operations second) :
    InOrder (operations ++ [new]) first second := by
  intro before later hb hl
  rcases arrived_concat.1 hb with ⟨-, -, hnew⟩ | ⟨hb, -⟩
  · exact absurd hfirst hnew
  rcases arrived_concat.1 hl with ⟨-, -, hnew⟩ | ⟨hl, -⟩
  · exact absurd hsecond hnew
  exact h before later hb hl

/-- A name that arrives is behind those that are there. -/
theorem inOrder_new {first second : String} (hfirst : Registered operations first)
    (hsecond : ¬ Registered operations second) : InOrder (operations ++ [new]) first second := by
  intro before later hb hl
  rcases arrived_concat.1 hl with ⟨rfl, -, -⟩ | ⟨hl, -⟩
  · rcases arrived_concat.1 hb with ⟨-, -, hnew⟩ | ⟨hb, -⟩
    · exact absurd hfirst hnew
    · exact hb.length_lt
  · exact absurd hl.registered hsecond

theorem pairwise_names_run (operations : List Operation) :
    (run operations).nodes.names.Pairwise (InOrder operations) := by
  induction operations using List.reverseRecOn with
  | nil => exact .nil
  | append_singleton operations op ih =>
    have hkept : (run operations).nodes.names.Pairwise (InOrder (operations ++ [op])) :=
      ih.imp_of_mem fun hfirst hsecond h => h.concat (mem_names_run.1 hfirst) (mem_names_run.1 hsecond)
    rw [nodes_concat]
    cases op with
    | add node =>
      rw [NameMap.names_insert]
      split
      · exact hkept
      · next hnew =>
        refine List.pairwise_append.2 ⟨hkept, List.pairwise_singleton _ _, fun first hf second hs => ?_⟩
        rw [List.mem_singleton.1 hs]
        exact inOrder_new (mem_names_run.1 hf) (mt mem_names_run.2 hnew)
    | remove node =>
      show ((run operations).nodes.erase node.name).names.Pairwise _
      rw [NameMap.names_erase]
      exact hkept.filter _
    | attach => exact hkept
    | detach => exact hkept

/-! ## Sets -/

/-- A set can be attached for the node: it is said to be an agent, and its name is registered. -/
def Accepted (operations : List Operation) (node : Node) : Prop :=
  node.kind ≠ .controller ∧ Registered operations node.name

/-- The call takes the set of the name away. -/
def Operation.Clears (name : String) : Operation → Prop
  | .detach node | .remove node => node.name = name
  | _ => False

/-- The call, made after the calls `before`, attaches a set under the name. -/
def Operation.Attaches (name : String) (before : List Operation) : Operation → Prop
  | .attach node _ => node.name = name ∧ Accepted before node
  | _ => False

/-- The set was attached under the name, and since then no other one was, nor was it taken
away. -/
def LastAttached (operations : List Operation) (name : String) (set : OverrideSet) : Prop :=
  ∃ before node, node.name = name ∧ Accepted before node ∧
    Stands (fun earlier later => later.Clears name ∨ later.Attaches name earlier) operations before
      (.attach node set)

theorem lastAttached_concat : LastAttached (operations ++ [new]) name set ↔
    (∃ node, new = .attach node set ∧ node.name = name ∧ Accepted operations node) ∨
      (LastAttached operations name set ∧ ¬ new.Clears name ∧ ¬ new.Attaches name operations) := by
  simp only [LastAttached, stands_concat, not_or]
  constructor
  · rintro ⟨before, node, hname, hok, ⟨rfl, rfl⟩ | ⟨hs, hnew⟩⟩
    · exact .inl ⟨node, rfl, hname, hok⟩
    · exact .inr ⟨⟨before, node, hname, hok, hs⟩, hnew⟩
  · rintro (⟨node, rfl, hname, hok⟩ | ⟨⟨before, node, hname, hok, hs⟩, hnew⟩)
    · exact ⟨operations, node, hname, hok, .inl ⟨rfl, rfl⟩⟩
    · exact ⟨before, node, hname, hok, .inr ⟨hs, hnew⟩⟩

/-- A call that attaches nothing at most takes the set away. -/
theorem lastAttached_concat_other (hop : ∀ node set, new ≠ .attach node set) :
    LastAttached (operations ++ [new]) name set ↔ LastAttached operations name set ∧ ¬ new.Clears name := by
  have hnot : ¬ new.Attaches name operations := by
    cases new with
    | attach node set => exact absurd rfl (hop node set)
    | _ => exact not_false
  rw [lastAttached_concat]
  constructor
  · rintro (⟨node, rfl, -⟩ | ⟨h, hkept, -⟩)
    · exact absurd rfl (hop node set)
    · exact ⟨h, hkept⟩
  · exact fun ⟨h, hkept⟩ => .inr ⟨h, hkept, hnot⟩

theorem accepted_iff : Accepted operations node ↔
    node.kind = .agent ∧ (run operations).contains node.name = true := by
  rw [Accepted, contains_run]
  cases node.kind <;> simp

theorem attach_run (operations : List Operation) (node : Node) (set : OverrideSet) :
    (∃ attached, (run operations).attach node set = .ok attached) ↔ Accepted operations node := by
  rw [accepted_iff, attach]
  cases node.kind <;> cases (run operations).contains node.name <;> simp [NodeKind.carriesOverrides]

theorem find?_overrides_run : (run operations).overrides.find? name = some set ↔
    LastAttached operations name set := by
  induction operations using List.reverseRecOn with
  | nil =>
    refine iff_of_false (fun h => nomatch h) ?_
    rintro ⟨before, node, -, -, hs⟩
    exact not_stands_nil hs
  | append_singleton operations op ih =>
    rw [run_concat]
    -- detaching and removing do the same to the sets
    have hcleared : ∀ node : Node, ((run operations).overrides.erase node.name).find? name = some set ↔
        LastAttached operations name set ∧ ¬ node.name = name := by
      intro node
      rw [NameMap.find?_erase]
      by_cases hn : name = node.name
      · rw [if_pos hn]
        exact iff_of_false (fun h => nomatch h) fun h => h.2 hn.symm
      · rw [if_neg hn, ih]
        exact (and_iff_left (Ne.symm hn)).symm
    cases op with
    | add node =>
      rw [lastAttached_concat_other (by simp)]
      exact ih.trans (and_iff_left not_false).symm
    | attach node other =>
      rw [lastAttached_concat]
      simp only [Operation.attach.injEq, Operation.Clears, Operation.Attaches, not_false_eq_true, true_and]
      by_cases hok : Accepted operations node
      · obtain ⟨hkind, hknown⟩ := accepted_iff.1 hok
        rw [apply_attach_of_agent hkind hknown]
        show ((run operations).overrides.insert node.name other).find? name = some set ↔ _
        rw [NameMap.find?_insert]
        by_cases hn : name = node.name
        · rw [if_pos hn, Option.some.injEq]
          constructor
          · rintro rfl
            exact .inl ⟨node, ⟨rfl, rfl⟩, hn.symm, hok⟩
          · rintro (⟨found, ⟨-, rfl⟩, -⟩ | ⟨-, hnot⟩)
            · rfl
            · exact absurd ⟨hn.symm, hok⟩ hnot
        · rw [if_neg hn, ih]
          constructor
          · exact fun h => .inr ⟨h, fun hboth => hn hboth.1.symm⟩
          · rintro (⟨found, ⟨rfl, -⟩, hname, -⟩ | ⟨h, -⟩)
            · exact absurd hname.symm hn
            · exact h
      · rw [apply_attach_of_refused (mt accepted_iff.2 hok), ih]
        constructor
        · exact fun h => .inr ⟨h, fun hboth => hok hboth.2⟩
        · rintro (⟨found, ⟨rfl, -⟩, -, hfound⟩ | ⟨h, -⟩)
          · exact absurd hfound hok
          · exact h
    | detach node =>
      rw [lastAttached_concat_other (by simp)]
      exact hcleared node
    | remove node =>
      rw [lastAttached_concat_other (by simp)]
      exact hcleared node

theorem LastAttached.registered (h : LastAttached operations name set) : Registered operations name := by
  induction operations using List.reverseRecOn with
  | nil =>
    obtain ⟨before, node, -, -, hs⟩ := h
    exact absurd hs not_stands_nil
  | append_singleton operations op ih =>
    rcases lastAttached_concat.1 h with ⟨node, rfl, rfl, -, hknown⟩ | ⟨h, hkept, -⟩
    · exact registered_concat.2 (.inr ⟨hknown, not_false⟩)
    · refine registered_concat.2 (.inr ⟨ih h, fun hremoved => hkept ?_⟩)
      cases op with
      | remove node => exact hremoved
      | _ => cases hremoved

/-! ## The whole -/

/-- The registry after any calls is what the calls say. A node has the set that was last attached
under its name and not taken away since, and no set otherwise. Attaching succeeds for an agent
of a registered name and for no other node, and where it fails nothing changes. The nodes are
those last registered under their names and not removed since, each name once, in the order
in which the names arrived; and a set is at a registered name only. The calls for other names
have no part in any of this: without them the sets, the nodes and their order are the same. -/
theorem run_tells_history (operations : List Operation) :
    (∀ node set, (run operations).overridesFor node = some set ↔
      LastAttached operations node.name set) ∧
    (∀ node set, (∃ attached, (run operations).attach node set = .ok attached) ↔
      Accepted operations node) ∧
    (∀ node set e, (run operations).attach node set = .error e →
      run (operations ++ [.attach node set]) = run operations) ∧
    (∀ node, node ∈ (run operations).all ↔ LastAdded operations node) ∧
    ((run operations).all.map Node.name).Nodup ∧
    (∀ name, name ∈ (run operations).all.map Node.name ↔ Registered operations name) ∧
    (∀ name, Registered operations name ↔ ∃ before, Arrived operations before name) ∧
    ((run operations).all.map Node.name).Pairwise (InOrder operations) ∧
    (∀ node, (run operations).overridesFor node ≠ none → Registered operations node.name) ∧
    ∀ p : String → Bool,
      let relevant := operations.filter fun op => p op.name
      (∀ node, p node.name = true → (run relevant).overridesFor node = (run operations).overridesFor node) ∧
        (∀ name, p name = true → (run relevant).get name = (run operations).get name) ∧
        (run relevant).all = (run operations).all.filter fun node => p node.name := by
  refine ⟨fun node set => find?_overrides_run, attach_run operations, fun node set e he => ?_,
    fun node => ?_, ?_, fun name => ?_, fun name => registered_iff_arrived, ?_, fun node hset => ?_,
    fun p => ?_⟩
  · rw [run_concat, apply, he]
  · rw [mem_all, find?_nodes_run, and_iff_right rfl]
  · rw [names_all]
    exact (run operations).nodes.nodup
  · rw [names_all, mem_names_run]
  · rw [names_all]
    exact pairwise_names_run operations
  · obtain ⟨set, hfound⟩ := Option.ne_none_iff_exists'.1 hset
    exact (find?_overrides_run.1 hfound).registered
  · intro relevant
    have hrun : run relevant = (run operations).restrict p := (run_filter p operations).symm
    rw [hrun]
    exact ⟨fun node => overridesFor_restrict, fun name => get_restrict, all_restrict⟩

/-- The name `n` had a set, was removed, and is registered again, as a controller, behind `m`: it
has no set, and cannot be given one. The node `m` keeps its set when it is registered again, and
has it whatever was called for `n`. -/
theorem run_tells_history_returned :
    let node (name : String) (labels : List String) : Node := ⟨name, .agent, labels⟩
    let controller : Node := ⟨"n", .controller, []⟩
    let set (home : String) : OverrideSet := ⟨[.unresolved ⟨"T", "a", by decide⟩ home]⟩
    let operations : List Operation := [.add (node "n" []), .add (node "m" []), .attach (node "n" []) (set "1"),
      .attach (node "m" []) (set "2"), .remove (node "n" []), .add controller, .add (node "m" ["l"])]
    let r := run operations
    LastAttached operations "m" (set "2") ∧ LastAdded operations (node "m" ["l"]) ∧ r.overridesFor controller = none ∧
      InOrder operations "m" "n" ∧ run (operations ++ [.attach controller (set "3")]) = r ∧
      (run (operations.filter fun op => op.name == "m")).overridesFor (node "m" []) = some (set "2") := by
  intro node controller set operations r
  obtain ⟨hsets, -, hrefused, hnodes, -, -, -, horder, -, hrelevant⟩ := run_tells_history operations
  have hset : r.overridesFor (node "m" []) = some (set "2") := by decide
  have hnames : r.all.map Node.name = ["m", "n"] := by decide
  rw [hnames, List.pairwise_pair] at horder
  have herror : r.attach controller (set "3") = .error (.cannotCarry controller) := rfl
  refine ⟨(hsets _ _).1 hset, (hnodes _).1 (by decide), by decide, horder, hrefused _ _ _ herror, ?_⟩
  rw [(hrelevant fun name => name == "m").1 (node "m" []) rfl, hset]

end NodeRegistry

end ToolSites
