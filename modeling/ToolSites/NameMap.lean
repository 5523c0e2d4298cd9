/-!
# Finite maps in the order of naming

Tool types, installations, nodes and override sets are looked up by name and
shown in the order in which they were first named. `Entries` are the operations
on a plain list of named values; a `NameMap` is such a list in which no name
stands twice. A name keeps the place of its first insertion, and inserting it
again replaces the value there.
-/

namespace ToolSites

variable {α β : Type}

/-! ## Lists of named values -/

namespace Entries

variable {κ : Type}

/-- The names, in order. -/
def names (entries : List (κ × α)) : List κ := entries.map Prod.fst

variable [DecidableEq κ]

/-- The value of the first entry called `name`. -/
def find? (name : κ) : List (κ × α) → Option α
  | [] => none
  | (n, v) :: rest => if n = name then some v else find? name rest

/-- Replaces the value of the first entry called `name`; a new name goes last. -/
def put (name : κ) (value : α) : List (κ × α) → List (κ × α)
  | [] => [(name, value)]
  | (n, v) :: rest => if n = name then (n, value) :: rest else (n, v) :: put name value rest

theorem names_put (name : κ) (value : α) (entries : List (κ × α)) :
    names (put name value entries) =
      if name ∈ names entries then names entries else names entries ++ [name] := by
  induction entries with
  | nil => simp [put, names]
  | cons e rest ih =>
    obtain ⟨n, v⟩ := e
    by_cases h : n = name
    · simp [put, names, h]
    · have h' : ¬ name = n := fun e => h e.symm
      simp only [names] at ih
      by_cases hn : name ∈ rest.map Prod.fst <;>
        simp [put, names, h, h', ih, hn]

theorem nodup_put {entries : List (κ × α)} (h : (names entries).Nodup) (name : κ)
    (value : α) : (names (put name value entries)).Nodup := by
  rw [names_put]
  split
  · exact h
  · next hn =>
    refine List.nodup_append.2 ⟨h, by simp, ?_⟩
    rintro a ha b hb rfl
    simp only [List.mem_singleton] at hb
    exact hn (hb ▸ ha)

theorem find?_put (name : κ) (value : α) (entries : List (κ × α)) (m : κ) :
    find? m (put name value entries) = if m = name then some value else find? m entries := by
  induction entries with
  | nil => simp [put, find?, eq_comm]
  | cons e rest ih =>
    obtain ⟨n, v⟩ := e
    by_cases h : n = name
    · subst h
      by_cases hm : n = m <;> simp [put, find?, hm, eq_comm]
      intro e; exact absurd e.symm hm
    · by_cases hm : n = m
      · subst hm; simp [put, find?, h]
      · simp [put, find?, h, hm, ih]

theorem find?_filter (p : κ → Bool) (entries : List (κ × α)) (m : κ) :
    find? m (entries.filter fun e => p e.1) = if p m then find? m entries else none := by
  induction entries with
  | nil => simp [find?]
  | cons e rest ih =>
    obtain ⟨n, v⟩ := e
    rw [List.filter_cons]
    by_cases hn : n = m
    · subst hn
      cases h : p n with
      | true => simp [find?]
      | false => simp [ih, h]
    · cases h : p n <;> simp [find?, hn, ih]

theorem find?_map (f : κ → α → β) (entries : List (κ × α)) (m : κ) :
    find? m (entries.map fun e => (e.1, f e.1 e.2)) = (find? m entries).map (f m) := by
  induction entries with
  | nil => rfl
  | cons e rest ih =>
    obtain ⟨n, v⟩ := e
    rw [List.map_cons, find?, find?]
    split
    · next hn => rw [hn, Option.map_some]
    · exact ih

theorem find?_filter_ne (name : κ) (entries : List (κ × α)) (m : κ) :
    find? m (entries.filter fun e => e.1 != name) = if m = name then none else find? m entries := by
  rw [find?_filter fun n => n != name]
  by_cases h : m = name <;> simp [h]

theorem put_of_not_mem {name : κ} {entries : List (κ × α)}
    (h : name ∉ names entries) (value : α) :
    put name value entries = entries ++ [(name, value)] := by
  induction entries with
  | nil => rfl
  | cons e rest ih =>
    obtain ⟨n, v⟩ := e
    simp only [names, List.map_cons, List.mem_cons, not_or] at h
    rw [put, if_neg (Ne.symm h.1), ih h.2, List.cons_append]

theorem put_of_find? {name : κ} {value : α} {entries : List (κ × α)}
    (h : find? name entries = some value) : put name value entries = entries := by
  induction entries with
  | nil => cases h
  | cons e rest ih =>
    obtain ⟨n, v⟩ := e
    rw [find?] at h
    rw [put]
    split at h
    · next hn => cases h; rw [if_pos hn]
    · next hn => rw [if_neg hn, ih h]

theorem mem_put {name : κ} {value : α} {entries : List (κ × α)} {e : κ × α}
    (h : e ∈ put name value entries) : e = (name, value) ∨ e ∈ entries := by
  induction entries with
  | nil => exact .inl (List.mem_singleton.1 h)
  | cons first rest ih =>
    obtain ⟨n, v⟩ := first
    rw [put] at h
    split at h
    · next hn =>
      subst hn
      exact (List.mem_cons.1 h).imp_right (.tail _)
    · rcases List.mem_cons.1 h with rfl | h
      · exact .inr (.head _)
      · exact (ih h).imp_right (.tail _)

theorem map_put (f : α → β) (name : κ) (value : α) (entries : List (κ × α)) :
    (put name value entries).map (fun e => (e.1, f e.2)) =
      put name (f value) (entries.map fun e => (e.1, f e.2)) := by
  induction entries with
  | nil => rfl
  | cons e rest ih =>
    obtain ⟨n, v⟩ := e
    rw [put, List.map_cons, put]
    split
    · rfl
    · rw [List.map_cons, ih]

theorem mem_of_find? {name : κ} {value : α} {entries : List (κ × α)}
    (h : find? name entries = some value) : (name, value) ∈ entries := by
  induction entries with
  | nil => simp [find?] at h
  | cons e rest ih =>
    simp only [find?] at h
    split at h
    · next hn => simp only [Option.some.injEq] at h; subst h; subst hn; exact .head _
    · exact .tail _ (ih h)

theorem find?_eq_none {name : κ} {entries : List (κ × α)} (h : name ∉ names entries) :
    find? name entries = none := by
  induction entries with
  | nil => rfl
  | cons e rest ih =>
    simp only [names, List.map_cons, List.mem_cons, not_or] at h
    rw [find?, if_neg (Ne.symm h.1)]
    exact ih h.2

theorem find?_of_mem {name : κ} {value : α} {entries : List (κ × α)}
    (hnodup : (names entries).Nodup) (h : (name, value) ∈ entries) :
    find? name entries = some value := by
  induction entries with
  | nil => simp at h
  | cons e rest ih =>
    obtain ⟨n, v⟩ := e
    simp only [names, List.map_cons, List.nodup_cons] at hnodup
    rcases List.mem_cons.1 h with he | hr
    · simp only [Prod.mk.injEq] at he
      simp [find?, he.1, he.2]
    · have hne : n ≠ name := by
        rintro rfl
        exact hnodup.1 (List.mem_map.2 ⟨_, hr, rfl⟩)
      simpa [find?, hne] using ih hnodup.2 hr

theorem filter_put (p : κ → Bool) (name : κ) (value : α) (entries : List (κ × α)) :
    (put name value entries).filter (fun e => p e.1) =
      if p name then put name value (entries.filter fun e => p e.1)
      else entries.filter fun e => p e.1 := by
  induction entries with
  | nil => cases h : p name <;> simp [put, h]
  | cons e rest ih =>
    obtain ⟨n, v⟩ := e
    rw [put]
    by_cases hn : n = name
    · subst hn
      cases h : p n <;> simp [put, h]
    · rw [if_neg hn, List.filter_cons, List.filter_cons, ih]
      cases h : p n <;> cases h' : p name <;> simp [put, hn]

theorem find?_append (name : κ) (entries more : List (κ × α)) :
    find? name (entries ++ more) = (find? name entries).or (find? name more) := by
  induction entries with
  | nil => rfl
  | cons e rest ih =>
    rw [List.cons_append, find?, find?, ih]
    split
    · rfl
    · rfl

end Entries

/-! ## Maps -/

/-- A list of named values in which no name stands twice. -/
structure NameMap (α : Type) where
  /-- The entries, first named first. -/
  entries : List (String × α)
  /-- No name stands twice. -/
  nodup : (Entries.names entries).Nodup
  deriving DecidableEq

namespace NameMap

/-- No entries. -/
def empty : NameMap α := ⟨[], by simp [Entries.names]⟩

instance : Inhabited (NameMap α) := ⟨empty⟩

/-- The names, first named first. -/
def names (m : NameMap α) : List String := Entries.names m.entries

/-- The values, in the order of their names. -/
def values (m : NameMap α) : List α := m.entries.map Prod.snd

/-- The number of names. -/
def size (m : NameMap α) : Nat := m.entries.length

/-- The value called `name`. -/
def find? (m : NameMap α) (name : String) : Option α := Entries.find? name m.entries

/-- Whether the name is known. -/
def contains (m : NameMap α) (name : String) : Bool := (m.find? name).isSome

/-- Replaces the value called `name`, or adds it as the last. -/
def insert (m : NameMap α) (name : String) (value : α) : NameMap α :=
  ⟨Entries.put name value m.entries, Entries.nodup_put m.nodup name value⟩

/-- The entries that satisfy `p`. -/
def filter (m : NameMap α) (p : String → α → Bool) : NameMap α :=
  ⟨m.entries.filter fun e => p e.1 e.2, m.nodup.sublist (List.filter_sublist.map _)⟩

/-- Forgets the name. -/
def erase (m : NameMap α) (name : String) : NameMap α := m.filter fun n _ => n != name

/-- The same names with other values. -/
def map (m : NameMap α) (f : α → β) : NameMap β :=
  ⟨m.entries.map fun e => (e.1, f e.2), by
    simpa [Entries.names, Function.comp_def] using m.nodup⟩

/-- The entries of `m`, with the values of `n` where it has them, and then what
only `n` names. -/
def merge (m n : NameMap α) : NameMap α :=
  n.entries.foldl (fun acc e => acc.insert e.1 e.2) m

/-- The entries in order; of one name given twice the later value holds. -/
def ofList (entries : List (String × α)) : NameMap α :=
  entries.foldl (fun acc e => acc.insert e.1 e.2) empty

theorem find?_insert (m : NameMap α) (name : String) (value : α) (k : String) :
    (m.insert name value).find? k = if k = name then some value else m.find? k :=
  Entries.find?_put name value m.entries k

theorem find?_eq_some_iff {m : NameMap α} {name : String} {value : α} :
    m.find? name = some value ↔ (name, value) ∈ m.entries :=
  ⟨Entries.mem_of_find?, Entries.find?_of_mem m.nodup⟩

theorem find?_empty (name : String) : (empty : NameMap α).find? name = none := rfl

theorem find?_filter (m : NameMap α) (p : String → α → Bool) (name : String) :
    (m.filter p).find? name = (m.find? name).filter (p name) := by
  apply Option.ext
  intro value
  rw [find?_eq_some_iff, Option.filter_eq_some_iff, find?_eq_some_iff]
  exact List.mem_filter

theorem find?_filter_name (m : NameMap α) (p : String → Bool) (name : String) :
    (m.filter fun name _ => p name).find? name = if p name then m.find? name else none := by
  rw [find?_filter]
  cases m.find? name <;> cases p name <;> simp [Option.filter]

theorem find?_erase (m : NameMap α) (name k : String) :
    (m.erase name).find? k = if k = name then none else m.find? k := by
  rw [erase, find?_filter_name]
  by_cases h : k = name
  · simp [h]
  · simp [h]

theorem find?_map (m : NameMap α) (f : α → β) (name : String) :
    (m.map f).find? name = (m.find? name).map f :=
  Entries.find?_map (fun _ => f) m.entries name

theorem find?_foldl_insert {entries : List (String × α)} (hnodup : (Entries.names entries).Nodup)
    (m : NameMap α) (name : String) :
    (entries.foldl (fun acc e => acc.insert e.1 e.2) m).find? name =
      (Entries.find? name entries).or (m.find? name) := by
  induction entries generalizing m with
  | nil => rfl
  | cons e rest ih =>
    obtain ⟨n, v⟩ := e
    obtain ⟨hn, hrest⟩ := List.nodup_cons.1 hnodup
    rw [List.foldl_cons, ih hrest, find?_insert, Entries.find?]
    by_cases h : n = name
    · subst h
      rw [Entries.find?_eq_none hn]
      simp
    · simp [h, Ne.symm h]

theorem find?_merge (m n : NameMap α) (name : String) :
    (m.merge n).find? name = (n.find? name).or (m.find? name) :=
  find?_foldl_insert n.nodup m name

theorem find?_ofList {entries : List (String × α)} (hnodup : (Entries.names entries).Nodup)
    (name : String) : (ofList entries).find? name = Entries.find? name entries := by
  rw [ofList, find?_foldl_insert hnodup, find?_empty, Option.or_none]

theorem mem_foldl_insert {entries : List (String × α)} {m : NameMap α} {e : String × α}
    (h : e ∈ (entries.foldl (fun acc e => acc.insert e.1 e.2) m).entries) :
    e ∈ m.entries ∨ e ∈ entries := by
  induction entries generalizing m with
  | nil => exact .inl h
  | cons first rest ih =>
    rcases ih h with h | h
    · rcases Entries.mem_put h with rfl | h
      · exact .inr (.head _)
      · exact .inl h
    · exact .inr (.tail _ h)

/-- Nothing is in the map of a list that is not in the list. -/
theorem mem_ofList {entries : List (String × α)} {e : String × α} (h : e ∈ (ofList entries).entries) :
    e ∈ entries :=
  (mem_foldl_insert h).resolve_left (List.not_mem_nil)

theorem find?_of_erase {m : NameMap α} {name k : String} {value : α}
    (h : (m.erase name).find? k = some value) : m.find? k = some value := by
  rw [find?_eq_some_iff] at h ⊢
  exact (List.mem_filter.1 h).1

theorem names_insert (m : NameMap α) (name : String) (value : α) :
    (m.insert name value).names =
      if name ∈ m.names then m.names else m.names ++ [name] :=
  Entries.names_put name value m.entries

@[ext]
theorem ext {m n : NameMap α} (h : m.entries = n.entries) : m = n := by
  cases m; cases n; cases h; rfl

theorem find?_eq_none_iff {m : NameMap α} {name : String} : m.find? name = none ↔ name ∉ m.names := by
  refine ⟨fun h hm => ?_, Entries.find?_eq_none⟩
  obtain ⟨e, he, rfl⟩ := List.mem_map.1 hm
  rw [find?_eq_some_iff.2 he] at h
  cases h

theorem contains_iff {m : NameMap α} {name : String} : m.contains name = true ↔ name ∈ m.names := by
  rw [contains, Option.isSome_iff_ne_none, ne_eq, find?_eq_none_iff, Classical.not_not]

theorem insert_of_find? {m : NameMap α} {name : String} {value : α} (h : m.find? name = some value) :
    m.insert name value = m :=
  ext (Entries.put_of_find? h)

theorem map_insert (m : NameMap α) (f : α → β) (name : String) (value : α) :
    (m.insert name value).map f = (m.map f).insert name (f value) :=
  ext (Entries.map_put f name value m.entries)

/-- What is inserted under new names stands behind the rest, in order. -/
theorem entries_foldl_insert {entries : List (String × α)} (m : NameMap α)
    (h : (Entries.names (m.entries ++ entries)).Nodup) :
    (entries.foldl (fun acc e => acc.insert e.1 e.2) m).entries = m.entries ++ entries := by
  induction entries generalizing m with
  | nil => simp
  | cons e rest ih =>
    have hput : (m.insert e.1 e.2).entries = m.entries ++ [e] := by
      refine Entries.put_of_not_mem (fun hm => ?_) e.2
      simp only [Entries.names, List.map_append, List.map_cons] at h hm
      exact (List.nodup_append.1 h).2.2 e.1 hm e.1 (.head _) rfl
    rw [List.foldl_cons, ih, hput, List.append_assoc]
    · rfl
    · rw [hput, List.append_assoc]; exact h

/-- A list in which no name stands twice is the list of its map. -/
theorem entries_ofList {entries : List (String × α)} (h : (Entries.names entries).Nodup) :
    (ofList entries).entries = entries := by
  rw [ofList, entries_foldl_insert]
  · rfl
  · exact h

theorem names_map (m : NameMap α) (f : α → β) : (m.map f).names = m.names := by
  simp [names, Entries.names, map, Function.comp_def]

theorem names_filter (m : NameMap α) (p : String → Bool) :
    (m.filter fun name _ => p name).names = m.names.filter p := by
  simp only [names, Entries.names, filter, List.filter_map, Function.comp_def]

theorem names_erase (m : NameMap α) (name : String) :
    (m.erase name).names = m.names.filter fun n => n != name :=
  names_filter m fun n => n != name

theorem filter_insert (m : NameMap α) (p : String → Bool) (name : String) (value : α) :
    (m.insert name value).filter (fun n _ => p n) =
      if p name then (m.filter fun n _ => p n).insert name value else m.filter fun n _ => p n := by
  apply ext
  have h := Entries.filter_put p name value m.entries
  cases hp : p name <;> rw [hp] at h <;> exact h

theorem filter_erase (m : NameMap α) (p : String → Bool) (name : String) :
    (m.erase name).filter (fun n _ => p n) =
      if p name then (m.filter fun n _ => p n).erase name else m.filter fun n _ => p n := by
  apply ext
  simp only [erase, filter, List.filter_filter]
  cases hp : p name with
  | true =>
    simp only [if_true]
    exact List.filter_congr fun e _ => Bool.and_comm _ _
  | false =>
    simp only [Bool.false_eq_true, if_false]
    refine List.filter_congr fun e _ => ?_
    by_cases hn : e.1 = name
    · simp [hn, hp]
    · simp [hn]

theorem names_foldl_insert {entries : List (String × α)} (hnodup : (Entries.names entries).Nodup)
    (m : NameMap α) : (entries.foldl (fun acc e => acc.insert e.1 e.2) m).names =
      m.names ++ (Entries.names entries).filter fun name => !m.names.contains name := by
  induction entries generalizing m with
  | nil => simp [Entries.names]
  | cons e rest ih =>
    obtain ⟨hn, hrest⟩ := List.nodup_cons.1 hnodup
    rw [List.foldl_cons, ih hrest, names_insert]
    simp only [Entries.names, List.map_cons, List.filter_cons]
    by_cases hm : e.1 ∈ m.names
    · simp [hm]
    · have hne : ∀ name ∈ rest.map Prod.fst, name ≠ e.1 := by rintro name h rfl; exact hn h
      simp only [hm, if_false, List.contains_eq_mem, decide_false, Bool.not_false, if_true,
        List.append_assoc, List.singleton_append, List.mem_append, List.mem_singleton]
      congr 2
      refine List.filter_congr fun name h => ?_
      simp [hne name h]

/-- A merge names what the first map names, and then what only the second does. -/
theorem names_merge (m n : NameMap α) :
    (m.merge n).names = m.names ++ n.names.filter fun name => !m.names.contains name :=
  names_foldl_insert n.nodup m

end NameMap

end ToolSites
