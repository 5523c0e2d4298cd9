import Mathlib.Data.List.Forall2
import ToolSites.NameMap
/-!
# Computations that may fail

When a computation made of several steps gives a result, and which one.
-/

namespace ToolSites

variable {α β ε δ : Type}

theorem map_eq_ok {x : Except ε α} {f : α → β} {b : β} :
    x.map f = .ok b ↔ ∃ a, x = .ok a ∧ f a = b := by
  cases x <;> simp [Except.map]

theorem bind_eq_ok {x : Except ε α} {f : α → Except ε β} {b : β} :
    x >>= f = .ok b ↔ ∃ a, x = .ok a ∧ f a = .ok b := by
  cases x <;> simp [bind, Except.bind]

/-- A step that has no result of its own comes before the others. -/
theorem then_eq_ok {x : Except ε Unit} {f : Unit → Except ε β} {b : β} :
    x >>= f = .ok b ↔ x = .ok () ∧ f () = .ok b := by
  cases x <;> simp [bind, Except.bind]

theorem bind_eq_error {x : Except ε α} {f : α → Except ε β} {e : ε} :
    x >>= f = .error e ↔ x = .error e ∨ ∃ a, x = .ok a ∧ f a = .error e := by
  cases x <;> simp [bind, Except.bind]

theorem bind_of_ok {x : Except ε α} {f : α → Except ε β} {a : α} (h : x = .ok a) : x >>= f = f a := by
  rw [h]
  rfl

theorem bind_of_error {x : Except ε α} {f : α → Except ε β} {e : ε} (h : x = .error e) :
    x >>= f = .error e := by
  rw [h]
  rfl

/-- It matters only what is done with a result. -/
theorem bind_congr_ok {x : Except ε α} {f g : α → Except ε β} (h : ∀ a, x = .ok a → f a = g a) :
    x >>= f = x >>= g := by
  cases x with
  | error e => rfl
  | ok a => exact h a rfl

theorem mapError_ok {f : ε → δ} {a : α} : (Except.ok a : Except ε α).mapError f = .ok a := rfl

theorem mapError_error {f : ε → δ} {e : ε} : (Except.error e : Except ε α).mapError f = .error (f e) := rfl

theorem mapError_eq_ok {x : Except ε α} {f : ε → δ} {a : α} :
    x.mapError f = .ok a ↔ x = .ok a := by
  cases x <;> simp [mapError_ok, mapError_error]

theorem toOption_eq_some {x : Except ε α} {a : α} : x.toOption = some a ↔ x = .ok a := by
  cases x <;> simp [Except.toOption]

/-- All results, if each step gives one. -/
theorem mapM_eq_ok {f : α → Except ε β} {g : α → β} {l : List α} (h : ∀ a ∈ l, f a = .ok (g a)) :
    l.mapM f = .ok (l.map g) := by
  induction l with
  | nil => rfl
  | cons a rest ih =>
    rw [List.mapM_cons, h a (.head _), ih fun b hb => h b (.tail _ hb)]
    rfl

/-- All results, in the same places, if each element has one. -/
theorem mapM_eq_some {f : α → Option β} {l : List α} {bs : List β} :
    l.mapM f = some bs ↔ List.Forall₂ (fun a b => f a = some b) l bs := by
  induction l generalizing bs with
  | nil => cases bs <;> simp
  | cons a rest ih =>
    rw [List.mapM_cons]
    cases bs with
    | nil => cases f a <;> cases rest.mapM f <;> simp
    | cons b tail =>
      rw [List.forall₂_cons, ← ih]
      cases f a <;> cases rest.mapM f <;> simp

/-- The results are those of a function that inverts the steps. -/
theorem map_of_mapM_eq_some {f : α → Option β} {g : β → α} {l : List α} {bs : List β}
    (h : l.mapM f = some bs) (hg : ∀ a b, f a = some b → g b = a) : bs.map g = l := by
  have hback := (mapM_eq_some.1 h).imp hg
  rw [← List.forall₂_eq_eq_eq]
  exact List.forall₂_map_left_iff.2 hback.flip

/-- All results are there if each is. -/
theorem mapM_defined {f : α → Except ε β} {l : List α} (h : ∀ a ∈ l, ∃ b, f a = .ok b) :
    ∃ bs, l.mapM f = .ok bs := by
  induction l with
  | nil => exact ⟨[], rfl⟩
  | cons a rest ih =>
    obtain ⟨b, hb⟩ := h a (.head _)
    obtain ⟨bs, hbs⟩ := ih fun a ha => h a (.tail _ ha)
    exact ⟨b :: bs, by rw [List.mapM_cons, hb, hbs]; rfl⟩

/-- All steps are done if each is. -/
theorem forM_eq_ok {f : α → Except ε Unit} {l : List α} :
    l.forM f = .ok () ↔ ∀ a ∈ l, f a = .ok () := by
  rw [List.forM_eq_forM]
  induction l with
  | nil => exact iff_of_true rfl nofun
  | cons a rest ih =>
    rw [List.forM_cons, then_eq_ok, List.forall_mem_cons, ← ih]

/-- Steps that agree on the elements come to the same. -/
theorem foldlM_congr {f g : δ → α → Except ε δ} {l : List α} (h : ∀ a ∈ l, ∀ s, f s a = g s a) (s : δ) :
    l.foldlM f s = l.foldlM g s := by
  induction l generalizing s with
  | nil => rfl
  | cons a rest ih =>
    rw [List.foldlM_cons, List.foldlM_cons, h a (.head _)]
    exact bind_congr_ok fun next _ => ih (fun b hb => h b (.tail _ hb)) next

/-- Each element and its result, in the same places. -/
theorem mapM_forall₂ {f : α → Except ε β} {l : List α} {bs : List β} (h : l.mapM f = .ok bs) :
    List.Forall₂ (fun a b => f a = .ok b) l bs := by
  induction l generalizing bs with
  | nil => cases h; exact .nil
  | cons a rest ih =>
    rw [List.mapM_cons] at h
    obtain ⟨b, hb, h⟩ := bind_eq_ok.1 h
    obtain ⟨tail, ht, h⟩ := bind_eq_ok.1 h
    cases h
    exact .cons hb (ih ht)

/-- Each result comes from an element, in the same place: what is read off the results
is read off the elements. -/
theorem map_mapM {γ : Type} {f : α → Except ε β} {g : β → γ} {k : α → γ} {l : List α} {bs : List β}
    (h : l.mapM f = .ok bs) (hk : ∀ a ∈ l, ∀ b, f a = .ok b → g b = k a) : bs.map g = l.map k := by
  have hplaces := mapM_forall₂ h
  clear h
  induction hplaces with
  | nil => rfl
  | cons hb _ ih =>
    rw [List.map_cons, List.map_cons, hk _ (.head _) _ hb, ih fun a ha => hk a (.tail _ ha)]

/-- What relates the elements of two lists in turn relates those of the first and the last. -/
theorem forall₂_trans {γ : Type} {r : α → β → Prop} {q : β → γ → Prop} {p : α → γ → Prop} {l : List α}
    {bs : List β} {cs : List γ} (h : List.Forall₂ r l bs) (h' : List.Forall₂ q bs cs)
    (hp : ∀ a b c, r a b → q b c → p a c) : List.Forall₂ p l cs := by
  induction h generalizing cs with
  | nil => cases h'; exact .nil
  | cons hr _ ih =>
    cases h' with
    | cons hq htail => exact .cons (hp _ _ _ hr hq) (ih htail)

/-- What stands in the first list has its counterpart in the second. -/
theorem forall₂_mem {r : α → β → Prop} {l : List α} {bs : List β} (h : List.Forall₂ r l bs) {a : α}
    (ha : a ∈ l) : ∃ b ∈ bs, r a b := by
  induction h with
  | nil => cases ha
  | cons hr _ ih =>
    rcases List.mem_cons.1 ha with rfl | ha
    · exact ⟨_, .head _, hr⟩
    · obtain ⟨b, hb, hab⟩ := ih ha
      exact ⟨b, .tail _ hb, hab⟩

/-- Lists whose entries have the same names in the same places. -/
theorem names_of_forall₂ {κ : Type} {r : κ × α → κ × β → Prop} {fields : List (κ × α)}
    {entries : List (κ × β)} (h : List.Forall₂ r fields entries)
    (hr : ∀ field e, r field e → e.1 = field.1) : Entries.names entries = Entries.names fields := by
  induction h with
  | nil => rfl
  | cons hfirst _ ih =>
    simp only [Entries.names, List.map_cons, List.cons.injEq] at ih ⊢
    exact ⟨hr _ _ hfirst, ih⟩

/-- Each result comes from an element. -/
theorem mem_of_mapM {f : α → Except ε β} {l : List α} {bs : List β} (h : l.mapM f = .ok bs) {b : β}
    (hb : b ∈ bs) : ∃ a ∈ l, f a = .ok b :=
  forall₂_mem (mapM_forall₂ h).flip hb

/-- Results by name: under each name stands the result for what stands there. -/
theorem find?_mapM {f : α → Except ε β} {entries : List (String × α)} {bs : List (String × β)}
    (h : entries.mapM (fun e => (f e.2).map fun b => (e.1, b)) = .ok bs) (name : String) :
    (Entries.find? name entries).map f = (Entries.find? name bs).map .ok := by
  induction entries generalizing bs with
  | nil => cases h; rfl
  | cons e rest ih =>
    rw [List.mapM_cons] at h
    obtain ⟨b, hb, h⟩ := bind_eq_ok.1 h
    obtain ⟨tail, ht, h⟩ := bind_eq_ok.1 h
    cases h
    obtain ⟨a, ha, rfl⟩ := map_eq_ok.1 hb
    by_cases hn : e.1 = name
    · simp [Entries.find?, hn, ha]
    · simp [Entries.find?, hn, ih ht]

end ToolSites
