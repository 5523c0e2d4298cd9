import Mathlib.Data.List.Induction
import ToolSites.Proofs.Results
import ToolSites.Tool.Registry
/-!
# What the registry of types remembers

A registration that is refused leaves no trace, so what the registry is after some calls is told by
those that went through, its `history`. The last of them that is for an identifier decides what the
identifier stands for (`LastRegistered`), and the identifiers stand in the order in which they came in
(`Arrived`). `Follows` says that a registry is as such a history tells. One more call that goes through
keeps it (`Follows.insert`, `Follows.unregister`), hence so does a run (`run_follows`), and
`run_tells_registrations` draws the conclusions.
-/

namespace ToolSites.TypeRegistry

/-! ## Registrations -/

section Register

variable {r s : TypeRegistry} {type : ToolType} {replace : Bool} {types : List ToolType}

theorem register_eq_ok : r.register type replace = .ok s ↔
    ¬ (r.contains type.identifier = true ∧ replace = false) ∧ r.insert type = s := by
  unfold register
  cases replace <;> cases r.contains type.identifier <;> simp

theorem register_eq_error {e : Error} : r.register type replace = .error e ↔
    (r.contains type.identifier = true ∧ replace = false) ∧ .typeRegistered type.identifier = e := by
  unfold register
  cases replace <;> cases r.contains type.identifier <;> simp

theorem contains_iff {identifier : String} : r.contains identifier = true ↔ r.find? identifier ≠ none := by
  rw [contains, NameMap.contains, Option.isSome_iff_ne_none, find?]

theorem get_eq_error {identifier : String} {e : Error} :
    r.get identifier = .error e ↔ r.find? identifier = none ∧ .unknownType identifier = e := by
  unfold get
  cases r.find? identifier <;> simp

/-- Types with identifiers of their own can be registered, and then they are known
beside those that were. -/
theorem register_all (hnodup : (types.map ToolType.identifier).Nodup)
    (hnew : ∀ type ∈ types, r.find? type.identifier = none) :
    ∃ s, types.foldlM (fun r type => r.register type false) r = .ok s ∧
      ∀ identifier, s.find? identifier =
        (types.find? fun type => type.identifier = identifier).or (r.find? identifier) := by
  induction types generalizing r with
  | nil => exact ⟨r, rfl, fun _ => rfl⟩
  | cons type rest ih =>
    obtain ⟨hfirst, hrest⟩ := List.nodup_cons.1 hnodup
    have hother : ∀ other ∈ rest, other.identifier ≠ type.identifier := fun other ho he =>
      hfirst (List.mem_map.2 ⟨other, ho, he⟩)
    have hreg : r.register type false = .ok (r.insert type) :=
      register_eq_ok.2 ⟨fun h => contains_iff.1 h.1 (hnew type (.head _)), rfl⟩
    obtain ⟨s, hs, hfind⟩ := ih (r := r.insert type) hrest fun other ho => by
      rw [find?_insert, if_neg (hother other ho)]
      exact hnew other (.tail _ ho)
    refine ⟨s, by rw [List.foldlM_cons, hreg]; exact hs, fun identifier => ?_⟩
    rw [hfind, find?_insert, List.find?_cons]
    by_cases he : identifier = type.identifier
    · subst he
      have hnone : (rest.find? fun other => other.identifier = type.identifier) = none :=
        List.find?_eq_none.2 fun other ho => by simpa using hother other ho
      simp [hnone]
    · simp [he, Ne.symm he]

theorem mem_ofList (h : ofList types = .ok r) {identifier : String} (hf : r.find? identifier = some type) :
    type ∈ types := by
  have hkeep : ∀ {types : List ToolType} {r s : TypeRegistry},
      types.foldlM (fun r type => r.register type false) r = .ok s →
      s.find? identifier = some type → type ∈ types ∨ r.find? identifier = some type := by
    intro types
    induction types with
    | nil => intro r s hs hf; cases hs; exact .inr hf
    | cons first rest ih =>
      intro r s hs hf
      rw [List.foldlM_cons] at hs
      obtain ⟨r', hr, hs⟩ := bind_eq_ok.1 hs
      obtain ⟨-, rfl⟩ := register_eq_ok.1 hr
      rcases ih hs hf with hm | hm
      · exact .inl (.tail _ hm)
      · rw [find?_insert] at hm
        split at hm
        · cases hm; exact .inl (.head _)
        · exact .inr hm
  exact (hkeep h hf).resolve_right (by simp [empty, find?, NameMap.find?_empty])

/-- A type that is registered stands behind the others. -/
theorem all_register (h : r.register type false = .ok s) : s.all = r.all ++ [type] := by
  obtain ⟨hnew, rfl⟩ := register_eq_ok.1 h
  rw [and_iff_left rfl, contains, NameMap.contains_iff] at hnew
  show ((Entries.put type.identifier type r.types.entries).map Prod.snd) = _
  rw [Entries.put_of_not_mem hnew, List.map_append]
  rfl

/-- The types of a registry are those that were registered, in the same order. -/
theorem all_ofList (h : ofList types = .ok r) : r.all = types := by
  have hall : ∀ {types : List ToolType} {r s : TypeRegistry},
      types.foldlM (fun r type => r.register type false) r = .ok s → s.all = r.all ++ types := by
    intro types
    induction types with
    | nil => intro r s hs; cases hs; rw [List.append_nil]
    | cons type rest ih =>
      intro r s hs
      rw [List.foldlM_cons] at hs
      obtain ⟨r', hr, hs⟩ := bind_eq_ok.1 hs
      rw [ih hs, all_register hr, List.append_assoc, List.singleton_append]
  exact hall h

end Register

/-! ## Listing -/

section All

variable {r s : TypeRegistry} {type : ToolType}

theorem entries_eq (r : TypeRegistry) : r.types.entries = r.all.map fun type => (type.identifier, type) := by
  have hself : ∀ e ∈ r.types.entries, ((e.2.identifier, e.2) : String × ToolType) = e := fun e he =>
    Prod.ext (r.named (NameMap.find?_eq_some_iff.2 he)) rfl
  rw [all, NameMap.values, List.map_map]
  exact ((List.map_congr_left hself).trans (List.map_id' _)).symm

theorem identifiers_all (r : TypeRegistry) : r.all.map ToolType.identifier = r.types.names := by
  rw [NameMap.names, Entries.names, entries_eq, List.map_map]
  rfl

theorem mem_all : type ∈ r.all ↔ r.find? type.identifier = some type := by
  rw [find?, NameMap.find?_eq_some_iff, entries_eq, List.mem_map]
  constructor
  · exact fun h => ⟨type, h, rfl⟩
  · rintro ⟨other, h, he⟩
    exact (Prod.mk.inj he).2 ▸ h

/-- A registry is known by its types and their order. -/
theorem eq_of_all (h : r.all = s.all) : r = s := by
  have htypes : r.types = s.types := NameMap.ext (by rw [entries_eq, h, entries_eq])
  cases r
  cases s
  cases htypes
  rfl

/-- Registering all types of a registry anew gives the same registry. -/
theorem ofList_all (r : TypeRegistry) : ofList r.all = .ok r := by
  have hnodup : (r.all.map ToolType.identifier).Nodup := r.identifiers_all ▸ r.types.nodup
  obtain ⟨s, hs, -⟩ := register_all (r := .empty) hnodup fun _ _ => rfl
  rwa [← eq_of_all (all_ofList hs).symm] at hs

end All

/-! ## Calls -/

/-- A call that changes the registry. -/
inductive Operation
  | register (type : ToolType) (replace : Bool)
  | unregister (identifier : String)

/-- The identifier that the call is for. -/
def Operation.identifier : Operation → String
  | .register type _ => type.identifier
  | .unregister identifier => identifier

/-- The registry after a call; one that is refused changes nothing. -/
def apply (r : TypeRegistry) : Operation → TypeRegistry
  | .register type replace =>
    match r.register type replace with
    | .ok registered => registered
    | .error _ => r
  | .unregister identifier => r.unregister identifier

/-- Whether the call is not refused. -/
def admits (r : TypeRegistry) : Operation → Bool
  | .register type replace => (r.register type replace).isOk
  | .unregister _ => true

/-- The registry after the calls, where nothing is registered before the first. -/
def run (operations : List Operation) : TypeRegistry := operations.foldl apply empty

/-- The calls that go through when all are made in turn. -/
def history (operations : List Operation) : List Operation := go empty operations
where
  /-- The same, from any registry on. -/
  go (r : TypeRegistry) : List Operation → List Operation
    | [] => []
    | op :: rest => if r.admits op then op :: go (r.apply op) rest else go (r.apply op) rest

variable {r : TypeRegistry} {operations log before : List Operation} {op new : Operation} {type : ToolType}
  {identifier : String}

theorem run_concat (operations : List Operation) (op : Operation) :
    run (operations ++ [op]) = (run operations).apply op := by
  rw [run, List.foldl_append]
  rfl

theorem history_concat (operations : List Operation) (op : Operation) :
    history (operations ++ [op]) =
      if (run operations).admits op then history operations ++ [op] else history operations := by
  have hgo : ∀ r : TypeRegistry, history.go r (operations ++ [op]) =
      if (operations.foldl apply r).admits op then history.go r operations ++ [op]
      else history.go r operations := by
    induction operations with
    | nil => exact fun r => rfl
    | cons first rest ih =>
      intro r
      rw [List.cons_append, history.go, ih, history.go, List.foldl_cons]
      split <;> split <;> rfl
  exact hgo empty

/-- A registration puts the type in, or it is refused and nothing has changed. -/
theorem apply_register (r : TypeRegistry) (type : ToolType) (replace : Bool) :
    (r.admits (.register type replace) = true ∧ r.apply (.register type replace) = r.insert type) ∨
      (r.admits (.register type replace) = false ∧ r.apply (.register type replace) = r) := by
  cases h : r.register type replace with
  | ok s =>
    obtain ⟨-, rfl⟩ := register_eq_ok.1 h
    exact .inl ⟨by rw [admits, h]; rfl, by rw [apply, h]⟩
  | error e => exact .inr ⟨by rw [admits, h]; rfl, by rw [apply, h]⟩

/-! ## Histories -/

/-- The call registers a type under the identifier. -/
def Operation.Registers (identifier : String) : Operation → Prop
  | .register type _ => type.identifier = identifier
  | .unregister _ => False

/-- The type was registered, and no later call was for its identifier. -/
def LastRegistered (log : List Operation) (type : ToolType) : Prop :=
  ∃ before replace after, log = before ++ .register type replace :: after ∧
    ∀ op ∈ after, op.identifier ≠ type.identifier

/-- A type was registered under the identifier, and it was not unregistered since. -/
def Known (log : List Operation) (identifier : String) : Prop :=
  ∃ type, type.identifier = identifier ∧ LastRegistered log type

/-- The identifier was first registered after the calls `before`, since it was last
unregistered. -/
def Arrived (log before : List Operation) (identifier : String) : Prop :=
  ∃ op after, log = before ++ op :: after ∧ op.Registers identifier ∧ ¬ Known before identifier ∧
    .unregister identifier ∉ after

/-- One of the calls is the last one or stands before it. -/
theorem concat_eq_append_cons {after : List Operation} :
    log ++ [new] = before ++ op :: after ↔ (before = log ∧ op = new ∧ after = []) ∨
      ∃ rest, after = rest ++ [new] ∧ log = before ++ op :: rest := by
  constructor
  · intro h
    rcases List.eq_nil_or_concat after with rfl | ⟨rest, last, rfl⟩
    · obtain ⟨rfl, rfl⟩ := List.append_singleton_inj.1 h
      exact .inl ⟨rfl, rfl, rfl⟩
    · rw [List.concat_eq_append, ← List.cons_append, ← List.append_assoc] at h
      obtain ⟨hlog, rfl⟩ := List.append_singleton_inj.1 h
      exact .inr ⟨rest, List.concat_eq_append, hlog⟩
  · rintro (⟨rfl, rfl, rfl⟩ | ⟨rest, rfl, rfl⟩)
    · rfl
    · rw [List.append_assoc, List.cons_append]

theorem lastRegistered_concat : LastRegistered (log ++ [new]) type ↔
    (∃ replace, new = .register type replace) ∨
      (LastRegistered log type ∧ new.identifier ≠ type.identifier) := by
  simp only [LastRegistered, concat_eq_append_cons]
  constructor
  · rintro ⟨before, replace, after, ⟨rfl, rfl, rfl⟩ | ⟨rest, rfl, hlog⟩, hlater⟩
    · exact .inl ⟨replace, rfl⟩
    · refine .inr ⟨⟨before, replace, rest, hlog, fun op ho => hlater op ?_⟩, hlater new ?_⟩
      · exact List.mem_append_left _ ho
      · exact List.mem_append_right _ (.head _)
  · rintro (⟨replace, rfl⟩ | ⟨⟨before, replace, rest, hlog, hlater⟩, hnew⟩)
    · exact ⟨log, replace, [], .inl ⟨rfl, rfl, rfl⟩, fun op ho => nomatch ho⟩
    · refine ⟨before, replace, rest ++ [new], .inr ⟨rest, rfl, hlog⟩, fun op ho => ?_⟩
      rcases List.mem_append.1 ho with ho | ho
      · exact hlater op ho
      · rwa [List.mem_singleton.1 ho]

theorem known_concat : Known (log ++ [new]) identifier ↔
    new.Registers identifier ∨ (Known log identifier ∧ new ≠ .unregister identifier) := by
  simp only [Known, lastRegistered_concat]
  constructor
  · rintro ⟨type, rfl, ⟨replace, rfl⟩ | ⟨hlast, hne⟩⟩
    · exact .inl rfl
    · exact .inr ⟨⟨type, rfl, hlast⟩, fun he => hne (by rw [he]; rfl)⟩
  · rintro (hnew | ⟨⟨type, rfl, hlast⟩, hne⟩)
    · cases new with
      | register type replace => exact ⟨type, hnew, .inl ⟨replace, rfl⟩⟩
      | unregister other => cases hnew
    · cases new with
      | register other replace =>
        by_cases he : other.identifier = type.identifier
        · exact ⟨other, he, .inl ⟨replace, rfl⟩⟩
        · exact ⟨type, rfl, .inr ⟨hlast, he⟩⟩
      | unregister other => exact ⟨type, rfl, .inr ⟨hlast, fun he => hne (congrArg _ he)⟩⟩

theorem arrived_concat : Arrived (log ++ [new]) before identifier ↔
    (before = log ∧ new.Registers identifier ∧ ¬ Known log identifier) ∨
      (Arrived log before identifier ∧ new ≠ .unregister identifier) := by
  simp only [Arrived, concat_eq_append_cons]
  constructor
  · rintro ⟨op, after, ⟨rfl, rfl, rfl⟩ | ⟨rest, rfl, hlog⟩, hop, hnew, hkept⟩
    · exact .inl ⟨rfl, hop, hnew⟩
    · rw [List.mem_append, List.mem_singleton, not_or] at hkept
      exact .inr ⟨⟨op, rest, hlog, hop, hnew, hkept.1⟩, Ne.symm hkept.2⟩
  · rintro (⟨rfl, hop, hnew⟩ | ⟨⟨op, rest, hlog, hop, hnew, hkept⟩, hne⟩)
    · exact ⟨new, [], .inl ⟨rfl, rfl, rfl⟩, hop, hnew, List.not_mem_nil⟩
    · refine ⟨op, rest ++ [new], .inr ⟨rest, rfl, hlog⟩, hop, hnew, ?_⟩
      rw [List.mem_append, List.mem_singleton, not_or]
      exact ⟨hkept, Ne.symm hne⟩

theorem not_lastRegistered_nil : ¬ LastRegistered [] type := by
  rintro ⟨before, replace, after, h, -⟩
  exact List.append_ne_nil_of_right_ne_nil _ (List.cons_ne_nil _ _) h.symm

theorem Arrived.length_lt (h : Arrived log before identifier) : before.length < log.length := by
  obtain ⟨op, after, rfl, -⟩ := h
  rw [List.length_append, List.length_cons]
  omega

theorem Operation.Registers.ne_unregister (h : op.Registers identifier) : op ≠ .unregister identifier := by
  rintro rfl
  exact h

/-- What is known came in at some time. -/
theorem known_iff_arrived : Known log identifier ↔ ∃ before, Arrived log before identifier := by
  induction log using List.reverseRecOn with
  | nil =>
    refine iff_of_false ?_ ?_
    · rintro ⟨type, -, hlast⟩
      exact not_lastRegistered_nil hlast
    · rintro ⟨before, h⟩
      exact Nat.not_lt_zero _ h.length_lt
  | append_singleton log new ih =>
    simp only [known_concat, arrived_concat]
    constructor
    · rintro (hnew | ⟨hk, hne⟩)
      · by_cases hk : Known log identifier
        · obtain ⟨before, hb⟩ := ih.1 hk
          exact ⟨before, .inr ⟨hb, hnew.ne_unregister⟩⟩
        · exact ⟨log, .inl ⟨rfl, hnew, hk⟩⟩
      · obtain ⟨before, hb⟩ := ih.1 hk
        exact ⟨before, .inr ⟨hb, hne⟩⟩
    · rintro ⟨before, ⟨-, hnew, -⟩ | ⟨hb, hne⟩⟩
      · exact .inl hnew
      · exact .inr ⟨ih.2 ⟨before, hb⟩, hne⟩

/-- Of two identifiers the first is the one that came in first. -/
def InOrder (log : List Operation) (first second : String) : Prop :=
  ∀ before later, Arrived log before first → Arrived log later second → before.length < later.length

/-- One more call does not change when identifiers came in that are known. -/
theorem InOrder.concat {first second : String} (h : InOrder log first second) (hfirst : Known log first)
    (hsecond : Known log second) : InOrder (log ++ [new]) first second := by
  intro before later hb hl
  rcases arrived_concat.1 hb with ⟨-, -, hnew⟩ | ⟨hb, -⟩
  · exact absurd hfirst hnew
  rcases arrived_concat.1 hl with ⟨-, -, hnew⟩ | ⟨hl, -⟩
  · exact absurd hsecond hnew
  exact h before later hb hl

/-- An identifier that comes in is behind those that are known. -/
theorem inOrder_new {first second : String} (hfirst : Known log first) (hsecond : ¬ Known log second) :
    InOrder (log ++ [new]) first second := by
  intro before later hb hl
  rcases arrived_concat.1 hl with ⟨rfl, -, -⟩ | ⟨hl, -⟩
  · rcases arrived_concat.1 hb with ⟨-, -, hnew⟩ | ⟨hb, -⟩
    · exact absurd hfirst hnew
    · exact hb.length_lt
  · exact absurd (known_iff_arrived.2 ⟨later, hl⟩) hsecond

/-! ## Runs -/

/-- The registry is as the calls tell: each identifier stands for the type that was last registered
under it, and the identifiers stand as they came in. -/
structure Follows (r : TypeRegistry) (log : List Operation) : Prop where
  found : ∀ identifier type, r.find? identifier = some type ↔
    type.identifier = identifier ∧ LastRegistered log type
  ordered : r.types.names.Pairwise (InOrder log)

theorem Follows.mem_names (h : r.Follows log) : identifier ∈ r.types.names ↔ Known log identifier := by
  rw [← NameMap.contains_iff, NameMap.contains, Option.isSome_iff_exists]
  exact exists_congr fun type => h.found identifier type

/-- The order of the identifiers is still the same after one more call. -/
theorem Follows.ordered_concat (h : r.Follows log) : r.types.names.Pairwise (InOrder (log ++ [new])) :=
  h.ordered.imp_of_mem fun hfirst hsecond ho => ho.concat (h.mem_names.1 hfirst) (h.mem_names.1 hsecond)

theorem follows_empty : empty.Follows [] where
  found _ _ := iff_of_false nofun fun h => not_lastRegistered_nil h.2
  ordered := .nil

theorem Follows.insert (h : r.Follows log) (type : ToolType) (replace : Bool) :
    (r.insert type).Follows (log ++ [.register type replace]) where
  found identifier found := by
    rw [find?_insert, lastRegistered_concat]
    by_cases hid : identifier = type.identifier
    · rw [if_pos hid, Option.some.injEq]
      constructor
      · rintro rfl
        exact ⟨hid.symm, .inl ⟨replace, rfl⟩⟩
      · rintro ⟨hfound, ⟨_, he⟩ | ⟨-, hne⟩⟩
        · cases he; rfl
        · exact absurd (hid.symm.trans hfound.symm) hne
    · rw [if_neg hid, h.found]
      refine and_congr_right fun hfound => ⟨fun hlast => .inr ⟨hlast, fun he => ?_⟩, ?_⟩
      · exact hid (hfound.symm.trans he.symm)
      · rintro (⟨_, he⟩ | ⟨hlast, -⟩)
        · cases he; exact absurd hfound.symm hid
        · exact hlast
  ordered := by
    show (r.types.insert type.identifier type).names.Pairwise _
    rw [NameMap.names_insert]
    split
    · exact h.ordered_concat
    · next hnew =>
      refine List.pairwise_append.2 ⟨h.ordered_concat, List.pairwise_singleton _ _, fun first hf second hs => ?_⟩
      rw [List.mem_singleton.1 hs]
      exact inOrder_new (h.mem_names.1 hf) (mt h.mem_names.2 hnew)

theorem Follows.unregister (h : r.Follows log) (identifier : String) :
    (r.unregister identifier).Follows (log ++ [.unregister identifier]) where
  found other type := by
    rw [find?_unregister, lastRegistered_concat]
    simp only [reduceCtorEq, exists_false, false_or, Operation.identifier]
    by_cases hid : other = identifier
    · rw [if_pos hid]
      refine iff_of_false nofun ?_
      rintro ⟨rfl, -, hne⟩
      exact hne hid.symm
    · rw [if_neg hid, h.found]
      refine and_congr_right fun hother => (and_iff_left fun he => ?_).symm
      exact hid (hother.symm.trans he.symm)
  ordered := by
    show (r.types.erase identifier).names.Pairwise _
    rw [NameMap.names_erase]
    exact h.ordered_concat.filter _

/-- After any calls the registry is as those of them tell that went through. -/
theorem run_follows (operations : List Operation) : (run operations).Follows (history operations) := by
  induction operations using List.reverseRecOn with
  | nil => exact follows_empty
  | append_singleton operations op ih =>
    rw [run_concat, history_concat]
    cases op with
    | register type replace =>
      rcases (run operations).apply_register type replace with ⟨hok, happly⟩ | ⟨hrefused, happly⟩
      · rw [happly, if_pos hok]
        exact ih.insert type replace
      · rw [happly, hrefused]
        exact ih
    | unregister identifier => exact ih.unregister identifier

/-- After any calls the registry is what those of them tell that were not refused. An identifier stands
for the type that was last registered under it and not unregistered since, which carries that
identifier; any other is an unknown type. All types are listed, each identifier once, in the order in
which the identifiers first came in since they were last unregistered, which every known one did. A
registration is refused exactly if the identifier is known and is not to be replaced, and then nothing
changes. Building a registry from all types gives this registry. -/
theorem run_tells_registrations (operations : List Operation) :
    let r := run operations
    let log := history operations
    (∀ identifier type, r.get identifier = .ok type ↔
      type.identifier = identifier ∧ LastRegistered log type) ∧
    (∀ identifier e, r.get identifier = .error e ↔
      ¬ Known log identifier ∧ .unknownType identifier = e) ∧
    (∀ identifier, r.contains identifier = true ↔ Known log identifier) ∧
    (∀ type, type ∈ r.all ↔ LastRegistered log type) ∧
    (r.all.map ToolType.identifier).Nodup ∧
    (r.all.map ToolType.identifier).Pairwise (InOrder log) ∧
    (∀ identifier, Known log identifier ↔ ∃ before, Arrived log before identifier) ∧
    (∀ type replace e, r.register type replace = .error e ↔
      (Known log type.identifier ∧ replace = false) ∧ .typeRegistered type.identifier = e) ∧
    (∀ type replace e, r.register type replace = .error e →
      run (operations ++ [.register type replace]) = r ∧
        history (operations ++ [.register type replace]) = log) ∧
    ofList r.all = .ok r := by
  intro r log
  have h : r.Follows log := run_follows operations
  have hknown : ∀ identifier, r.contains identifier = true ↔ Known log identifier := fun identifier =>
    NameMap.contains_iff.trans h.mem_names
  refine ⟨fun identifier type => ?_, fun identifier e => ?_, hknown, fun type => ?_, ?_, ?_,
    fun identifier => known_iff_arrived, fun type replace e => ?_, fun type replace e he => ?_, r.ofList_all⟩
  · rw [get_eq_ok, h.found]
  · rw [get_eq_error, ← hknown, contains_iff, Classical.not_not]
  · rw [mem_all, h.found, and_iff_right rfl]
  · rw [identifiers_all]
    exact r.types.nodup
  · rw [identifiers_all]
    exact h.ordered
  · rw [register_eq_error, hknown]
  · have hrefused : r.admits (.register type replace) = false := by rw [admits, he]; rfl
    rw [run_concat, history_concat]
    refine ⟨?_, ?_⟩
    · show r.apply _ = r
      rw [apply, he]
    · show (if r.admits _ then _ else log) = log
      rw [hrefused]
      rfl

/-- The type `T` is replaced and keeps its place before `U`; `V` is unregistered and comes back last;
a registration of `U` that is not to replace is refused, and `U` stands for what it stood for. -/
theorem run_tells_registrations_returned :
    let T (shown : String) : ToolType := .declared ⟨"T", shown, by decide, by decide⟩
    let U (shown : String) : ToolType := .declared ⟨"U", shown, by decide, by decide⟩
    let V (shown : String) : ToolType := .declared ⟨"V", shown, by decide, by decide⟩
    let operations : List Operation := [.register (V "1") false, .register (T "2") false,
      .register (U "3") true, .unregister "V", .register (T "4") true, .register (V "5") false,
      .register (U "6") false]
    let r := run operations
    let log := history operations
    r.get "T" = .ok (T "4") ∧ LastRegistered log (U "3") ∧ r.get "V" = .ok (V "5") ∧
      r.get "W" = .error (.unknownType "W") ∧ InOrder log "U" "V" ∧
      r.register (U "7") false = .error (.typeRegistered "U") ∧
      run (operations ++ [.register (U "7") false]) = r ∧ ofList [T "4", U "3", V "5"] = .ok r := by
  intro T U V operations r log
  obtain ⟨hget, hunknown, hknown, -, -, horder, -, hrefused, hkept, hbuilt⟩ :=
    run_tells_registrations operations
  have hall : r.all = [T "4", U "3", V "5"] := by decide
  have hU : r.get "U" = .ok (U "3") := get_eq_ok.2 (by decide)
  have herror : r.register (U "7") false = .error (.typeRegistered "U") :=
    (hrefused _ _ _).2 ⟨⟨(hknown "U").1 (by decide), rfl⟩, rfl⟩
  refine ⟨get_eq_ok.2 (by decide), ((hget "U" (U "3")).1 hU).2, get_eq_ok.2 (by decide), ?_, ?_, herror,
    (hkept _ _ _ herror).1, hall ▸ hbuilt⟩
  · refine (hunknown "W" _).2 ⟨fun hk => ?_, rfl⟩
    exact absurd ((hknown "W").2 hk) (by decide)
  · have hnames : r.all.map ToolType.identifier = ["T", "U", "V"] := by rw [hall]; rfl
    rw [hnames] at horder
    exact (List.pairwise_cons.1 (List.pairwise_cons.1 horder).2).1 "V" (.head _)

end ToolSites.TypeRegistry
