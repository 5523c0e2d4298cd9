import ToolSites.Location
import ToolSites.Proofs.Results
/-!
# Keys and their halves

A key is the same as its two halves. `Key.of` puts halves together and `Key.parse` takes a text
apart, each exactly where the other one leads (`of_eq_ok`, `parse_eq_ok`), so that keys with the same
text are the same (`text_injective`). Locations and installations have their keys from their types
and names, and may be told apart by them: `key_halves` says this of all of them together.
-/

namespace ToolSites

/-! ## Texts -/

namespace Key

variable {typeId name : String} {k : Key}

theorem text_injective {k m : Key} (h : k.text = m.text) : k = m := by
  have hk := Key.parse_text k
  rw [h, Key.parse_text m] at hk
  injection hk with hk
  exact hk.symm

theorem textOf_inj {a b x y : String} (ha : '@' ∉ a.toList) (hb : '@' ∉ b.toList)
    (h : textOf a x = textOf b y) : a = b ∧ x = y := by
  have hk : (⟨a, x, ha⟩ : Key) = ⟨b, y, hb⟩ := Key.text_injective h
  injection hk with hid hname
  exact ⟨hid, hname⟩

theorem parse_eq_ok {s : String} {k : Key} : parse s = .ok k ↔ k.text = s :=
  ⟨text_of_parse, fun h => h ▸ parse_text k⟩

/-- A text reads as a key exactly if it has a separator. -/
theorem parse_defined {s : String} : (∃ k, parse s = .ok k) ↔ '@' ∈ s.toList := by
  constructor
  · rintro ⟨k, hk⟩
    rw [← parse_eq_ok.1 hk, toList_text]
    simp
  · intro h
    unfold parse
    split
    · next hnone =>
      have hall := List.takeWhile_append_dropWhile (p := (· != '@')) (l := s.toList)
      rw [hnone, List.append_nil] at hall
      rw [← hall] at h
      exact absurd h (not_mem_takeWhile '@' s.toList)
    · exact ⟨_, rfl⟩

/-! ## Halves -/

/-- Halves make the key that has them. -/
theorem of_eq_ok : Key.of typeId name = .ok k ↔ k.typeId = typeId ∧ k.name = name := by
  unfold Key.of of?
  by_cases h : '@' ∈ typeId.toList
  · rw [dif_pos h]
    refine iff_of_false nofun ?_
    rintro ⟨rfl, -⟩
    exact k.separator_free h
  · obtain ⟨typeId', name', free⟩ := k
    rw [dif_neg h]
    simp only [Except.ok.injEq, Key.mk.injEq]
    exact and_congr eq_comm eq_comm

/-- Halves make a key exactly if the type holds no separator. -/
theorem of_defined : (∃ k, Key.of typeId name = .ok k) ↔ '@' ∉ typeId.toList := by
  constructor
  · rintro ⟨k, hk⟩
    obtain ⟨rfl, -⟩ := of_eq_ok.1 hk
    exact k.separator_free
  · intro h
    exact ⟨⟨typeId, name, h⟩, of_eq_ok.2 ⟨rfl, rfl⟩⟩

end Key

/-! ## Locations -/

namespace Location

variable {l m : Location}

/-- A location comes of a text exactly if that is the text of its key, and carries no type. -/
theorem ofKey_eq_ok {key home : String} :
    ofKey key home = .ok l ↔ l = .unresolved l.key home ∧ l.key.text = key := by
  rw [ofKey, map_eq_ok]
  constructor
  · rintro ⟨k, hk, rfl⟩
    exact ⟨rfl, Key.parse_eq_ok.1 hk⟩
  · rintro ⟨hl, hk⟩
    exact ⟨l.key, Key.parse_eq_ok.2 hk, hl.symm⟩

/-- The key and the home of a location make the location again, without its type. -/
theorem ofKey_key (l : Location) : ofKey l.key.text l.home = .ok (.unresolved l.key l.home) :=
  ofKey_eq_ok.2 ⟨rfl, rfl⟩

/-- A location for a type has the halves of its key from the type and the name. -/
theorem ofType_eq_ok {type : ToolType} {name home : String} (h : ofType type name home = .ok l) :
    l.typeId = type.identifier ∧ l.name = name ∧ l.home = home := by
  unfold ofType at h
  split at h
  · cases h
  · cases h
    exact ⟨rfl, rfl, rfl⟩

theorem ofType_defined {type : ToolType} {name home : String} :
    (∃ l, ofType type name home = .ok l) ↔ '@' ∉ type.identifier.toList := by
  unfold ofType
  split
  · next h =>
    refine iff_of_false ?_ (not_not.2 h)
    rintro ⟨_, hl⟩
    cases hl
  · next h => exact iff_of_true ⟨_, rfl⟩ h

theorem key_eq_iff : l.key.text = m.key.text ↔ l.typeId = m.typeId ∧ l.name = m.name := by
  constructor
  · intro h
    unfold typeId name
    rw [Key.text_injective h]
    exact ⟨rfl, rfl⟩
  · rintro ⟨hid, hname⟩
    unfold Key.text
    exact congrArg₂ Key.textOf hid hname

end Location

/-! ## Installations -/

namespace Installation

theorem key_eq_ok {i : Installation} (hfree : '@' ∉ i.type.identifier.toList) :
    i.key = .ok ⟨i.type.identifier, i.name, hfree⟩ :=
  Key.of_eq_ok.2 ⟨rfl, rfl⟩

theorem keyText_eq_iff {i j : Installation} (hi : '@' ∉ i.type.identifier.toList)
    (hj : '@' ∉ j.type.identifier.toList) :
    i.keyText = j.keyText ↔ i.type.identifier = j.type.identifier ∧ i.name = j.name :=
  ⟨Key.textOf_inj hi hj, fun ⟨hid, hname⟩ => congrArg₂ Key.textOf hid hname⟩

end Installation

/-! ## All keys -/

/-- Halves make a key exactly if the type holds no separator, and it reads back as these halves. A
text reads as a key exactly if it has a separator; the type is then free of separators, and the
halves make the text again. A location, which comes of a text, of a type and a name, or of another
location that is resolved, has the key of its halves, as has an installation whose type fits into
keys, such as every declared type; and the keys of two of them are equal exactly if their types'
identifiers and their names are. The key and the home of a location make one with the same halves
and home. -/
theorem key_halves :
    (∀ typeId name : String, ((∃ k, Key.of typeId name = .ok k) ↔ '@' ∉ typeId.toList) ∧
      ∀ k, Key.of typeId name = .ok k → ∃ m, Key.parse k.text = .ok m ∧ m.typeId = typeId ∧ m.name = name) ∧
    (∀ s : String, ((∃ k, Key.parse s = .ok k) ↔ '@' ∈ s.toList) ∧
      ∀ k, Key.parse s = .ok k → '@' ∉ k.typeId.toList ∧
        (Key.of k.typeId k.name).map Key.text = .ok s) ∧
    (∀ (key home : String) (l : Location), Location.ofKey key home = .ok l → l.key.text = key ∧ l.home = home) ∧
    (∀ (type : ToolType) (name home : String),
      ((∃ l, Location.ofType type name home = .ok l) ↔ '@' ∉ type.identifier.toList) ∧
      ∀ l, Location.ofType type name home = .ok l →
        l.typeId = type.identifier ∧ l.name = name ∧ l.home = home) ∧
    (∀ (l r : Location) (types : TypeRegistry), l.resolve types = .ok r →
      r.typeId = l.typeId ∧ r.name = l.name ∧ r.home = l.home) ∧
    (∀ l : Location, Key.of l.typeId l.name = .ok l.key ∧
      ∃ r, Location.ofKey l.key.text l.home = .ok r ∧
        r.typeId = l.typeId ∧ r.name = l.name ∧ r.home = l.home) ∧
    (∀ l m : Location, l.key.text = m.key.text ↔ l.typeId = m.typeId ∧ l.name = m.name) ∧
    (∀ d : Descriptor, '@' ∉ (ToolType.declared d).identifier.toList) ∧
    (∀ i : Installation, '@' ∉ i.type.identifier.toList → i.key.map Key.text = .ok i.keyText) ∧
    ∀ i j : Installation, '@' ∉ i.type.identifier.toList → '@' ∉ j.type.identifier.toList →
      (i.keyText = j.keyText ↔ i.type.identifier = j.type.identifier ∧ i.name = j.name) := by
  refine ⟨fun typeId name => ⟨Key.of_defined, fun k hk => ?_⟩, fun s => ⟨Key.parse_defined, fun k hk => ?_⟩,
    fun key home l => Location.key_ofKey,
    fun type name home => ⟨Location.ofType_defined, fun l => Location.ofType_eq_ok⟩,
    fun l r types hr => ?_, fun l => ⟨Key.of_eq_ok.2 ⟨rfl, rfl⟩, _, l.ofKey_key, rfl, rfl, rfl⟩,
    fun l m => Location.key_eq_iff, fun d => d.separator_free, fun i hfree => ?_,
    fun i j => Installation.keyText_eq_iff⟩
  · exact ⟨k, Key.parse_text k, Key.of_eq_ok.1 hk⟩
  · refine ⟨k.separator_free, map_eq_ok.2 ⟨k, Key.of_eq_ok.2 ⟨rfl, rfl⟩, ?_⟩⟩
    exact Key.parse_eq_ok.1 hk
  · have hkey := Location.key_resolve hr
    exact ⟨congrArg Key.typeId hkey, congrArg Key.name hkey, Location.home_resolve hr⟩
  · rw [Installation.key_eq_ok hfree]
    rfl

end ToolSites
