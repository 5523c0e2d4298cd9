import ToolSites.Config.Schema
import ToolSites.Proofs.OverrideSet
/-!
# What a check accepts

A check accepts a value and gives what it holds, or lists what is wrong with it. For each check
of a part of a configuration this says what the value looks like, and what it holds, exactly when
it is accepted: one lemma for each way to put checks together, one for each part, and
`formOfDocument_eq_ok` for all of them. What is left is whether the installations agree with the
types and with each other (`disagreement?_eq_none`, `disagreement?_eq_some`).
-/

namespace ToolSites

/-! ## Forms -/

/-- There are no other fields than those that are known. -/
def OnlyFields (fields : List (String × Value)) (known : List String) : Prop :=
  ∀ name ∈ Entries.names fields, name ∈ known

/-- The items of the array under the name, each of which stands for one in the list. Without the
field the list is empty. -/
def ListedAt {α : Type} (fields : List (String × Value)) (name : String) (r : Value → α → Prop)
    (l : List α) : Prop :=
  (Entries.find? name fields = none ∧ l = []) ∨
    ∃ items, Entries.find? name fields = some (.array items) ∧ List.Forall₂ r items l

/-- The fields of the table under the name, each of which stands for the entry of that name. Without
the field there are no entries. -/
def NamedAt {α : Type} (fields : List (String × Value)) (name : String) (r : Value → α → Prop)
    (entries : List (String × α)) : Prop :=
  (Entries.find? name fields = none ∧ entries = []) ∨
    ∃ inner, Entries.find? name fields = some (.table inner) ∧
      List.Forall₂ (fun field e => e.1 = field.1 ∧ r field.2 e.2) inner entries

/-- The value is a table for a type with the display name. -/
def DescribesType (v : Value) (displayName : String) : Prop :=
  ∃ fields, v = .table fields ∧ OnlyFields fields ["display_name"] ∧
    ((Entries.find? "display_name" fields = none ∧ displayName = "") ∨
      Entries.find? "display_name" fields = some (.text displayName))

/-- The value is a table for the installation. -/
def DescribesInstallation (v : Value) (spec : InstallationSpec) : Prop :=
  ∃ fields, v = .table fields ∧ OnlyFields fields ["type", "name", "home"] ∧
    Entries.find? "type" fields = some (.text spec.typeId) ∧
    Entries.find? "name" fields = some (.text spec.name) ∧
    Entries.find? "home" fields = some (.text spec.home)

/-- The value is a table for a location with the key and the home. -/
def DescribesLocation (v : Value) (pair : String × String) : Prop :=
  ∃ fields, v = .table fields ∧ OnlyFields fields ["key", "home"] ∧
    Entries.find? "key" fields = some (.text pair.1) ∧ '@' ∈ pair.1.toList ∧
    Entries.find? "home" fields = some (.text pair.2)

/-- The value is a table for the node. -/
def DescribesNode (v : Value) (spec : NodeSpec) : Prop :=
  ∃ fields, v = .table fields ∧ OnlyFields fields ["kind", "labels", "tool_locations"] ∧
    ((Entries.find? "kind" fields = none ∧ spec.kind = .agent) ∨
      Entries.find? "kind" fields = some (.text spec.kind.text)) ∧
    ListedAt fields "labels" (fun item label => item = .text label) spec.labels ∧
    ListedAt fields "tool_locations" DescribesLocation spec.locations

/-- The store of a configuration with these fields. -/
def StoreAt (fields : List (String × Value)) (store : Option Path) : Prop :=
  (Entries.find? "store" fields = none ∧ store = none) ∨
    (Entries.find? "store" fields = some .null ∧ store = none) ∨
      ∃ s, Entries.find? "store" fields = some (.text s) ∧ store = some (.parse s)

/-- The value is a table for a configuration of these parts, in their order. -/
def HoldsParts (v : Value) (store : Option Path) (types : List (String × String))
    (installations : List InstallationSpec) (nodes : List (String × NodeSpec)) : Prop :=
  ∃ fields, v = .table fields ∧ OnlyFields fields ["store", "tool_types", "installations", "nodes"] ∧
    StoreAt fields store ∧ NamedAt fields "tool_types" DescribesType types ∧
    ListedAt fields "installations" DescribesInstallation installations ∧
    NamedAt fields "nodes" DescribesNode nodes

/-- Each installation is of one of the types, and no two are alike. -/
structure InstallationsAgree (types : List String) (specs : List InstallationSpec) : Prop where
  declared : ∀ spec ∈ specs, spec.typeId ∈ types
  nodup : (specs.map fun spec => (spec.typeId, spec.name)).Nodup

namespace Checked

variable {α β γ : Type}

/-! ## Checks that accept -/

theorem complain_ne_ok {complaint : Complaint} {a : α} : (complain complaint : Checked α) ≠ .ok a := by
  simp [complain]

theorem below_eq_ok {step : Step} {c : Checked α} {a : α} : c.below step = .ok a ↔ c = .ok a :=
  mapError_eq_ok

theorem both_eq_ok {a : Checked α} {b : Checked β} {p : α × β} :
    both a b = .ok p ↔ a = .ok p.1 ∧ b = .ok p.2 := by
  cases a <;> cases b <;> simp [both, Prod.ext_iff]

theorem all_map_eq_ok {f : γ → Checked α} {l : List γ} {as : List α} :
    all (l.map f) = .ok as ↔ List.Forall₂ (fun c a => f c = .ok a) l as := by
  induction l generalizing as with
  | nil => simp [all, eq_comm]
  | cons c rest ih =>
    rw [List.map_cons, all, map_eq_ok, List.forall₂_cons_left_iff]
    constructor
    · rintro ⟨⟨a, tail⟩, hb, rfl⟩
      obtain ⟨ha, htail⟩ := both_eq_ok.1 hb
      exact ⟨a, tail, ha, ih.1 htail, rfl⟩
    · rintro ⟨a, tail, ha, htail, rfl⟩
      exact ⟨(a, tail), both_eq_ok.2 ⟨ha, ih.2 htail⟩, rfl⟩

end Checked

open Checked

namespace Value

variable {α : Type}

theorem asText_eq_ok {v : Value} {s : String} : v.asText = .ok s ↔ v = .text s := by
  cases v <;> simp [asText, complain]

theorem asList_eq_ok {check : Value → Checked α} {v : Value} {l : List α} : v.asList check = .ok l ↔
    ∃ items, v = .array items ∧ List.Forall₂ (fun item a => check item = .ok a) items l := by
  cases v with
  | array items =>
    have hfst : items = items.zipIdx.map Prod.fst := (List.zipIdx_map_fst 0 items).symm
    simp only [asList, all_map_eq_ok, below_eq_ok, array.injEq, exists_eq_left']
    conv_rhs => rw [hfst, List.forall₂_map_left_iff]
  | _ => simp [asList, complain]

theorem asNameMap_eq_ok {check : Value → Checked α} {v : Value} {m : NameMap α} :
    v.asNameMap check = .ok m ↔ ∃ fields entries, v = .table fields ∧
      List.Forall₂ (fun field e => e.1 = field.1 ∧ check field.2 = .ok e.2) fields entries ∧
      NameMap.ofList entries = m := by
  cases v with
  | table fields =>
    have hfield : ∀ (field : String × Value) (e : String × α),
        ((check field.2).below (.field field.1)).map (fun a => (field.1, a)) = .ok e ↔
          e.1 = field.1 ∧ check field.2 = .ok e.2 := by
      intro field e
      rw [map_eq_ok]
      constructor
      · rintro ⟨a, ha, rfl⟩
        exact ⟨rfl, below_eq_ok.1 ha⟩
      · rintro ⟨hname, ha⟩
        exact ⟨e.2, below_eq_ok.2 ha, Prod.ext hname.symm rfl⟩
    simp only [asNameMap, map_eq_ok, all_map_eq_ok, hfield, table.injEq]
    simp
  | _ => simp [asNameMap, complain]

theorem asDescription_eq_ok {thing : String} {check : List (String × Value) → Checked α} {v : Value} {a : α} :
    v.asDescription thing check = .ok a ↔ ∃ fields, v = .table fields ∧ check fields = .ok a := by
  cases v <;> simp [asDescription, complain]

end Value

section Fields

variable {α : Type} {fields : List (String × Value)} {name : String} {check : Value → Checked α} {a : α}

theorem requiredField_eq_ok : requiredField fields name check = .ok a ↔
    ∃ v, Entries.find? name fields = some v ∧ check v = .ok a := by
  unfold requiredField
  cases Entries.find? name fields <;> simp [below_eq_ok, complain]

theorem optionalField_eq_ok {default : α} : optionalField fields name default check = .ok a ↔
    (Entries.find? name fields = none ∧ a = default) ∨
      ∃ v, Entries.find? name fields = some v ∧ check v = .ok a := by
  unfold optionalField
  cases Entries.find? name fields with
  | none => simp [eq_comm]
  | some v => simp [below_eq_ok]

/-- A list may be missing. -/
theorem optionalList_eq_ok {r : Value → α → Prop} (hcheck : ∀ v a, check v = .ok a ↔ r v a) {l : List α} :
    optionalField fields name [] (Value.asList check) = .ok l ↔ ListedAt fields name r l := by
  rw [optionalField_eq_ok, ListedAt]
  simp only [Value.asList_eq_ok, hcheck]
  refine or_congr_right ?_
  constructor
  · rintro ⟨_, hfind, items, rfl, hitems⟩
    exact ⟨items, hfind, hitems⟩
  · rintro ⟨items, hfind, hitems⟩
    exact ⟨_, hfind, items, rfl, hitems⟩

/-- A table of named values may be missing. -/
theorem optionalNameMap_eq_ok {r : Value → α → Prop} (hcheck : ∀ v a, check v = .ok a ↔ r v a)
    {m : NameMap α} : optionalField fields name .empty (Value.asNameMap check) = .ok m ↔
      ∃ entries, NamedAt fields name r entries ∧ NameMap.ofList entries = m := by
  rw [optionalField_eq_ok]
  simp only [Value.asNameMap_eq_ok, hcheck, NamedAt]
  constructor
  · rintro (⟨hnone, rfl⟩ | ⟨_, hfind, inner, entries, rfl, hentries, rfl⟩)
    · exact ⟨[], .inl ⟨hnone, rfl⟩, rfl⟩
    · exact ⟨entries, .inr ⟨inner, hfind, hentries⟩, rfl⟩
  · rintro ⟨entries, ⟨hnone, rfl⟩ | ⟨inner, hfind, hentries⟩, rfl⟩
    · exact .inl ⟨hnone, rfl⟩
    · exact .inr ⟨_, hfind, inner, entries, rfl, hentries, rfl⟩

theorem noOtherFields_eq_ok {known : List String} {u : Unit} :
    noOtherFields fields known = .ok u ↔ OnlyFields fields known := by
  have hnone : (fields.filter fun field => !known.contains field.1) = [] ↔ OnlyFields fields known := by
    simp [List.filter_eq_nil_iff, OnlyFields, Entries.names]
  rw [← hnone]
  unfold noOtherFields
  split
  · next h => exact iff_of_true rfl (List.map_eq_nil_iff.1 h)
  · next h => exact iff_of_false nofun fun hnil => h (List.map_eq_nil_iff.2 hnil)

end Fields

/-! ### The parts -/

theorem typeOfDocument_eq_ok {v : Value} {displayName : String} :
    typeOfDocument v = .ok displayName ↔ DescribesType v displayName := by
  unfold typeOfDocument DescribesType
  simp only [Value.asDescription_eq_ok, map_eq_ok, Prod.exists, both_eq_ok, optionalField_eq_ok,
    noOtherFields_eq_ok, Value.asText_eq_ok, exists_eq_right]
  constructor
  · rintro ⟨fields, rfl, s, _, ⟨hname, honly⟩, rfl⟩
    exact ⟨fields, rfl, honly, hname⟩
  · rintro ⟨fields, rfl, honly, hname⟩
    exact ⟨fields, rfl, displayName, (), ⟨hname, honly⟩, rfl⟩

theorem installationOfDocument_eq_ok {v : Value} {spec : InstallationSpec} :
    installationOfDocument v = .ok spec ↔ DescribesInstallation v spec := by
  unfold installationOfDocument DescribesInstallation
  simp only [Value.asDescription_eq_ok, map_eq_ok, Prod.exists, both_eq_ok, requiredField_eq_ok,
    noOtherFields_eq_ok, Value.asText_eq_ok, exists_eq_right]
  constructor
  · rintro ⟨fields, rfl, typeId, name, home, _, ⟨htype, hname, hhome, honly⟩, rfl⟩
    exact ⟨fields, rfl, honly, htype, hname, hhome⟩
  · rintro ⟨fields, rfl, honly, htype, hname, hhome⟩
    exact ⟨fields, rfl, spec.typeId, spec.name, spec.home, (), ⟨htype, hname, hhome, honly⟩, rfl⟩

theorem keyOfDocument_eq_ok {v : Value} {key : String} :
    keyOfDocument v = .ok key ↔ v = .text key ∧ '@' ∈ key.toList := by
  unfold keyOfDocument
  rw [← Key.parse_defined]
  constructor
  · intro h
    obtain ⟨s, hs, h⟩ := bind_eq_ok.1 h
    split at h
    · next k hk =>
      cases h
      exact ⟨Value.asText_eq_ok.1 hs, k, hk⟩
    · cases h
  · rintro ⟨rfl, k, hk⟩
    refine bind_eq_ok.2 ⟨key, rfl, ?_⟩
    rw [hk]

theorem locationOfDocument_eq_ok {v : Value} {pair : String × String} :
    locationOfDocument v = .ok pair ↔ DescribesLocation v pair := by
  unfold locationOfDocument DescribesLocation
  simp only [Value.asDescription_eq_ok, map_eq_ok, Prod.exists, both_eq_ok, requiredField_eq_ok,
    noOtherFields_eq_ok, keyOfDocument_eq_ok, Value.asText_eq_ok, exists_eq_right]
  constructor
  · rintro ⟨fields, rfl, key, home, _, ⟨⟨_, hkey, rfl, hseparator⟩, hhome, honly⟩, rfl⟩
    exact ⟨fields, rfl, honly, hkey, hseparator, hhome⟩
  · rintro ⟨fields, rfl, honly, hkey, hseparator, hhome⟩
    exact ⟨fields, rfl, pair.1, pair.2, (), ⟨⟨_, hkey, rfl, hseparator⟩, hhome, honly⟩, rfl⟩

theorem NodeKind.text_of_ofText? {word : String} {kind : NodeKind} (h : ofText? word = some kind) :
    kind.text = word := by
  unfold ofText? at h
  split at h
  · next hword => cases h; exact hword.symm
  · split at h
    · next hword => cases h; exact hword.symm
    · cases h

theorem kindOfDocument_eq_ok {v : Value} {kind : NodeKind} :
    kindOfDocument v = .ok kind ↔ v = .text kind.text := by
  constructor
  · intro h
    unfold kindOfDocument at h
    split at h
    · next word =>
      split at h
      · next found hfound =>
        cases h
        rw [NodeKind.text_of_ofText? hfound]
      · cases h
    · cases h
  · rintro rfl
    unfold kindOfDocument
    dsimp only
    rw [NodeKind.ofText?_text]

theorem nodeOfDocument_eq_ok {v : Value} {spec : NodeSpec} :
    nodeOfDocument v = .ok spec ↔ DescribesNode v spec := by
  unfold nodeOfDocument DescribesNode
  have hlabels := fun (v : Value) (label : String) => (Value.asText_eq_ok : v.asText = .ok label ↔ _)
  have hlocations := fun (v : Value) (pair : String × String) =>
    (locationOfDocument_eq_ok : locationOfDocument v = .ok pair ↔ _)
  simp only [Value.asDescription_eq_ok, map_eq_ok, Prod.exists, both_eq_ok, noOtherFields_eq_ok,
    optionalList_eq_ok hlabels, optionalList_eq_ok hlocations, optionalField_eq_ok, kindOfDocument_eq_ok,
    exists_eq_right]
  constructor
  · rintro ⟨fields, rfl, kind, labels, locations, _, ⟨hkind, hlabels, hlocations, honly⟩, rfl⟩
    exact ⟨fields, rfl, honly, hkind, hlabels, hlocations⟩
  · rintro ⟨fields, rfl, honly, hkind, hlabels, hlocations⟩
    exact ⟨fields, rfl, spec.kind, spec.labels, spec.locations, (), ⟨hkind, hlabels, hlocations, honly⟩, rfl⟩

theorem optionalStore_eq_ok {fields : List (String × Value)} {store : Option Path} :
    optionalField fields "store" none storeOfDocument = .ok store ↔ StoreAt fields store := by
  have hstore : ∀ v, storeOfDocument v = .ok store ↔
      (v = .null ∧ store = none) ∨ ∃ s, v = .text s ∧ store = some (.parse s) := by
    intro v
    cases v <;> simp [storeOfDocument, complain, eq_comm]
  rw [optionalField_eq_ok, StoreAt]
  simp only [hstore]
  cases Entries.find? "store" fields with
  | none => simp
  | some v => simp

theorem fitsIntoKeys_iff {identifier : String} :
    fitsIntoKeys identifier = true ↔ identifier ≠ "" ∧ '@' ∉ identifier.toList := by
  simp [fitsIntoKeys]

theorem typesOfDocument_eq_ok {v : Value} {types : NameMap String} : typesOfDocument v = .ok types ↔
    v.asNameMap typeOfDocument = .ok types ∧ ∀ identifier ∈ types.names, fitsIntoKeys identifier = true := by
  unfold typesOfDocument
  constructor
  · intro h
    obtain ⟨read, hread, h⟩ := bind_eq_ok.1 h
    split at h
    · next hnone =>
      cases h
      exact ⟨hread, by simpa using List.find?_eq_none.1 hnone⟩
    · cases h
  · rintro ⟨hread, hfit⟩
    refine bind_eq_ok.2 ⟨types, hread, ?_⟩
    have hnone : (types.names.find? fun identifier => !fitsIntoKeys identifier) = none := by
      simpa using hfit
    rw [hnone]

theorem optionalTypes_eq_ok {fields : List (String × Value)} {types : NameMap String} :
    optionalField fields "tool_types" .empty typesOfDocument = .ok types ↔
      (∃ entries, NamedAt fields "tool_types" DescribesType entries ∧ NameMap.ofList entries = types) ∧
        ∀ identifier ∈ types.names, fitsIntoKeys identifier = true := by
  rw [← optionalNameMap_eq_ok fun _ _ => typeOfDocument_eq_ok, optionalField_eq_ok, optionalField_eq_ok]
  simp only [typesOfDocument_eq_ok]
  constructor
  · rintro (⟨hnone, rfl⟩ | ⟨v, hfind, hread, hfit⟩)
    · exact ⟨.inl ⟨hnone, rfl⟩, List.forall_mem_nil _⟩
    · exact ⟨.inr ⟨v, hfind, hread⟩, hfit⟩
  · rintro ⟨⟨hnone, rfl⟩ | ⟨v, hfind, hread⟩, hfit⟩
    · exact .inl ⟨hnone, rfl⟩
    · exact .inr ⟨v, hfind, hread, hfit⟩

/-! ## All parts -/

/-- The configuration that a document holds, whether or not its installations agree. -/
def formOfDocument (document : Value) : Checked Config :=
  document.asDescription "ControllerConfig" fun fields =>
    (both (optionalField fields "store" none storeOfDocument)
      (both (optionalField fields "tool_types" .empty typesOfDocument)
        (both (optionalField fields "installations" [] (Value.asList installationOfDocument))
          (both (optionalField fields "nodes" .empty (Value.asNameMap nodeOfDocument))
            (noOtherFields fields ["store", "tool_types", "installations", "nodes"]))))).map
      fun (store, toolTypes, installations, nodes, _) => ⟨store, toolTypes, installations, nodes⟩

theorem ofDocument_eq (document : Value) : Config.ofDocument document =
    (formOfDocument document).bind fun config =>
      match disagreement? config.toolTypes [] config.installations with
      | none => .ok config
      | some complaint => complain complaint := rfl

theorem formOfDocument_eq_ok {document : Value} {config : Config} : formOfDocument document = .ok config ↔
    (∃ types nodes, HoldsParts document config.store types config.installations nodes ∧
      NameMap.ofList types = config.toolTypes ∧ NameMap.ofList nodes = config.nodes) ∧
    ∀ identifier ∈ config.toolTypes.names, fitsIntoKeys identifier = true := by
  have hinstallations := fun (v : Value) (spec : InstallationSpec) =>
    (installationOfDocument_eq_ok : installationOfDocument v = .ok spec ↔ _)
  have hnodes := fun (v : Value) (spec : NodeSpec) => (nodeOfDocument_eq_ok : nodeOfDocument v = .ok spec ↔ _)
  unfold formOfDocument HoldsParts
  simp only [Value.asDescription_eq_ok, map_eq_ok, Prod.exists, both_eq_ok, noOtherFields_eq_ok,
    optionalStore_eq_ok, optionalTypes_eq_ok, optionalList_eq_ok hinstallations, optionalNameMap_eq_ok hnodes]
  constructor
  · rintro ⟨fields, rfl, store, _, installations, _, _,
      ⟨hstore, ⟨⟨types, htypes, rfl⟩, hfit⟩, hinstallations, ⟨nodes, hnodes, rfl⟩, honly⟩, rfl⟩
    exact ⟨⟨types, nodes, ⟨fields, rfl, honly, hstore, htypes, hinstallations, hnodes⟩, rfl, rfl⟩, hfit⟩
  · rintro ⟨⟨types, nodes, ⟨fields, rfl, honly, hstore, htypes, hinstallations, hnodes⟩, hmap, hmap'⟩, hfit⟩
    exact ⟨fields, rfl, config.store, config.toolTypes, config.installations, config.nodes, (),
      ⟨hstore, ⟨⟨types, htypes, hmap⟩, hfit⟩, hinstallations, ⟨nodes, hnodes, hmap'⟩, honly⟩, rfl⟩

/-! ## Agreement -/

section Agreement

variable {types : NameMap String} {seen : List (String × String)} {specs : List InstallationSpec}

theorem disagreement?_cons (spec : InstallationSpec) :
    disagreement? types seen (spec :: specs) =
      if spec.typeId ∉ types.names then some (.undeclaredType spec.name spec.typeId)
      else if (spec.typeId, spec.name) ∈ seen then some (.duplicateInstallation spec.typeId spec.name)
      else disagreement? types ((spec.typeId, spec.name) :: seen) specs := by
  simp only [disagreement?, ← NameMap.contains_iff, List.contains_eq_mem, Bool.not_eq_true', decide_eq_true_eq,
    Bool.not_eq_true]

theorem installationsAgree_cons {names : List String} {spec : InstallationSpec} :
    InstallationsAgree names (spec :: specs) ↔ spec.typeId ∈ names ∧ InstallationsAgree names specs ∧
      ∀ other ∈ specs, (other.typeId, other.name) ≠ (spec.typeId, spec.name) := by
  have hdifferent : (spec.typeId, spec.name) ∉ specs.map (fun spec => (spec.typeId, spec.name)) ↔
      ∀ other ∈ specs, (other.typeId, other.name) ≠ (spec.typeId, spec.name) := by
    rw [List.mem_map, not_exists]
    simp only [not_and, ne_eq]
  constructor
  · rintro ⟨hdeclared, hnodup⟩
    obtain ⟨hspec, hrest⟩ := List.forall_mem_cons.1 hdeclared
    obtain ⟨hnew, hnodup⟩ := List.nodup_cons.1 hnodup
    exact ⟨hspec, ⟨hrest, hnodup⟩, hdifferent.1 hnew⟩
  · rintro ⟨hspec, ⟨hrest, hnodup⟩, hnew⟩
    exact ⟨List.forall_mem_cons.2 ⟨hspec, hrest⟩, List.nodup_cons.2 ⟨hdifferent.2 hnew, hnodup⟩⟩

/-- There is no disagreement if each installation is of a declared type, none was there before, and no
two are alike. -/
theorem disagreement?_eq_none : disagreement? types seen specs = none ↔
    InstallationsAgree types.names specs ∧ ∀ spec ∈ specs, (spec.typeId, spec.name) ∉ seen := by
  induction specs generalizing seen with
  | nil => exact iff_of_true rfl ⟨⟨List.forall_mem_nil _, List.nodup_nil⟩, List.forall_mem_nil _⟩
  | cons spec rest ih =>
    rw [disagreement?_cons, installationsAgree_cons, List.forall_mem_cons]
    split
    · next hundeclared => exact iff_of_false nofun fun h => hundeclared h.1.1
    next hdeclared =>
    split
    · next hseen => exact iff_of_false nofun fun h => h.2.1 hseen
    next hnew =>
    -- what the rest has not seen is neither seen here nor like this one
    rw [ih]
    simp only [List.mem_cons, not_or, forall_and]
    tauto

/-- A disagreement is about the first installation that does not agree with the types or with those
before it. -/
theorem disagreement?_eq_some {complaint : Complaint} (h : disagreement? types seen specs = some complaint) :
    ∃ before spec after, specs = before ++ spec :: after ∧ disagreement? types seen before = none ∧
      ((spec.typeId ∉ types.names ∧ complaint = .undeclaredType spec.name spec.typeId) ∨
        (spec.typeId ∈ types.names ∧
          ((spec.typeId, spec.name) ∈ seen ∨
            (spec.typeId, spec.name) ∈ before.map fun spec => (spec.typeId, spec.name)) ∧
          complaint = .duplicateInstallation spec.typeId spec.name)) := by
  induction specs generalizing seen with
  | nil => cases h
  | cons spec rest ih =>
    rw [disagreement?_cons] at h
    split at h
    · next hundeclared =>
      cases h
      exact ⟨[], spec, rest, rfl, rfl, .inl ⟨hundeclared, rfl⟩⟩
    next hdeclared =>
    split at h
    · next hseen =>
      cases h
      exact ⟨[], spec, rest, rfl, rfl, .inr ⟨not_not.1 hdeclared, .inl hseen, rfl⟩⟩
    next hnew =>
    obtain ⟨before, first, after, rfl, hbefore, hfirst⟩ := ih h
    refine ⟨spec :: before, first, after, rfl, ?_, hfirst.imp_right fun ⟨hd, hagain, hc⟩ => ⟨hd, ?_, hc⟩⟩
    · rw [disagreement?_cons, if_neg hdeclared, if_neg hnew, hbefore]
    · rw [List.map_cons, List.mem_cons]
      rw [List.mem_cons] at hagain
      tauto

end Agreement

end ToolSites
