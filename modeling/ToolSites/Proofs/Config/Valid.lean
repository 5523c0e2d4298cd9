import ToolSites.Config.Load
import ToolSites.Proofs.Config.Reading
/-!
# What a configuration that was read can be relied on for

A configuration that comes out of `Config.ofDocument` is `Valid`: the identifiers of
its types fit into keys, the keys of its locations read as keys, and its installations
are of declared types, no two of them alike.
-/

namespace ToolSites

open Checked

/-- What holds of every configuration that was read. -/
structure Config.Valid (config : Config) : Prop where
  types_fit : ∀ identifier ∈ config.toolTypes.names, fitsIntoKeys identifier = true
  keys_parse : ∀ e ∈ config.nodes.entries, ∀ pair ∈ e.2.locations, ∃ k, Key.parse pair.1 = .ok k
  installations_declared : ∀ spec ∈ config.installations, spec.typeId ∈ config.toolTypes.names
  installations_nodup : (config.installations.map fun spec => (spec.typeId, spec.name)).Nodup

/-- What is listed under a name stands for something. -/
theorem ListedAt.mem {α : Type} {fields : List (String × Value)} {name : String} {r : Value → α → Prop}
    {l : List α} (h : ListedAt fields name r l) {a : α} (ha : a ∈ l) : ∃ item, r item a := by
  rcases h with ⟨-, rfl⟩ | ⟨items, -, hitems⟩
  · cases ha
  · obtain ⟨item, -, hr⟩ := forall₂_mem hitems.flip ha
    exact ⟨item, hr⟩

theorem NamedAt.mem {α : Type} {fields : List (String × Value)} {name : String} {r : Value → α → Prop}
    {entries : List (String × α)} (h : NamedAt fields name r entries) {e : String × α} (he : e ∈ entries) :
    ∃ v, r v e.2 := by
  rcases h with ⟨-, rfl⟩ | ⟨inner, -, hentries⟩
  · cases he
  · obtain ⟨field, -, -, hr⟩ := forall₂_mem hentries.flip he
    exact ⟨field.2, hr⟩

/-- A configuration that was read is valid. -/
theorem Config.valid_of_ofDocument {document : Value} {config : Config}
    (h : Config.ofDocument document = .ok config) : config.Valid := by
  rw [ofDocument_eq] at h
  obtain ⟨read, hread, h⟩ := bind_eq_ok.1 h
  split at h
  · next hagree =>
    cases h
    obtain ⟨hinstallations, -⟩ := disagreement?_eq_none.1 hagree
    obtain ⟨⟨types, nodes, ⟨_, -, -, -, -, -, hnodes⟩, -, hmap⟩, hfit⟩ := formOfDocument_eq_ok.1 hread
    refine ⟨hfit, fun e he pair hpair => ?_, hinstallations.declared, hinstallations.nodup⟩
    obtain ⟨v, _, -, -, -, -, hlocations⟩ := hnodes.mem (NameMap.mem_ofList (hmap ▸ he))
    obtain ⟨item, _, -, -, -, hseparator, -⟩ := hlocations.mem hpair
    exact Key.parse_defined.2 hseparator
  · exact absurd h complain_ne_ok

/-! ## Loading -/

/-- Only a file that can be read holds a configuration. -/
theorem Config.read_of_load [Host] {files : FileTree} {vars : Variables} {path : Path} {config : Config}
    (h : Config.load files vars path = .ok config) : ∃ bytes, files.read path = .ok bytes := by
  unfold Config.load at h
  cases hr : files.read path with
  | error fault => rw [hr] at h; cases fault <;> cases h
  | ok bytes => exact ⟨bytes, rfl⟩

/-- A configuration that was loaded is valid. -/
theorem Config.valid_of_load [Host] {files : FileTree} {vars : Variables} {path : Path} {config : Config}
    (h : Config.load files vars path = .ok config) : config.Valid := by
  obtain ⟨bytes, hr⟩ := Config.read_of_load h
  simp only [Config.load, hr] at h
  split at h
  · cases h
  · unfold Config.ofText at h
    split at h
    · cases h
    · cases h
    · cases h
    · split at h
      · cases h
      · exact Config.valid_of_ofDocument (mapError_eq_ok.1 h)

end ToolSites
