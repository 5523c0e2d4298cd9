import ToolSites.Proofs.Config.Reading
/-!
# Which documents are configurations

`IsConfig` is the form of a configuration: its parts are well formed, and its installations agree
with the types and with each other. A document is accepted exactly if it has this form, and the
configuration has its parts in their order. If it is not, something is said: whatever is not well
formed, and nothing about agreement, or only where the installations do not agree first
(`ofDocument_exact`).
-/

namespace ToolSites

/-! ## What is said -/

/-- Whether it is said that installations do not agree with the types or with each other. -/
def Complaint.isDisagreement : Complaint → Bool
  | .undeclaredType .. | .duplicateInstallation .. => true
  | _ => false

/-- A check that does not accept has something to say, and not about agreement. -/
def Checked.Sound {α : Type} (c : Checked α) : Prop :=
  ∀ issues, c = .error issues → issues ≠ [] ∧ ∀ issue ∈ issues, issue.complaint.isDisagreement = false

namespace Checked

variable {α β : Type}

theorem sound_ok (a : α) : Sound (.ok a) := nofun

theorem sound_complain {complaint : Complaint} (h : complaint.isDisagreement = false) :
    (complain complaint : Checked α).Sound := by
  rintro issues he
  cases he
  exact ⟨List.cons_ne_nil _ _, List.forall_mem_singleton.2 h⟩

theorem Sound.map {c : Checked α} (hc : c.Sound) (f : α → β) : Sound (Except.map f c) := by
  intro issues he
  cases c with
  | ok a => cases he
  | error found => cases he; exact hc _ rfl

theorem Sound.bind {c : Checked α} {f : α → Checked β} (hc : c.Sound) (hf : ∀ a, (f a).Sound) :
    Sound (Except.bind c f) := by
  intro issues he
  cases c with
  | ok a => exact hf a issues he
  | error found => cases he; exact hc _ rfl

theorem Sound.below {c : Checked α} (hc : c.Sound) (step : Step) : (c.below step).Sound := by
  intro issues he
  cases c with
  | ok a => cases he
  | error found =>
    cases he
    obtain ⟨hne, hall⟩ := hc _ rfl
    refine ⟨fun hnil => hne (List.map_eq_nil_iff.1 hnil), fun issue hi => ?_⟩
    obtain ⟨inner, hinner, rfl⟩ := List.mem_map.1 hi
    exact hall inner hinner

theorem Sound.both {a : Checked α} {b : Checked β} (ha : a.Sound) (hb : b.Sound) : (both a b).Sound := by
  intro issues he
  cases a with
  | ok a =>
    cases b with
    | ok b => cases he
    | error more => cases he; exact hb _ rfl
  | error found =>
    cases b with
    | ok b => cases he; exact ha _ rfl
    | error more =>
      cases he
      obtain ⟨hne, hfound⟩ := ha _ rfl
      obtain ⟨-, hmore⟩ := hb _ rfl
      exact ⟨List.append_ne_nil_of_left_ne_nil hne _, List.forall_mem_append.2 ⟨hfound, hmore⟩⟩

theorem sound_all {cs : List (Checked α)} (h : ∀ c ∈ cs, c.Sound) : (all cs).Sound := by
  induction cs with
  | nil => exact sound_ok []
  | cons c rest ih =>
    obtain ⟨hc, hrest⟩ := List.forall_mem_cons.1 h
    exact (hc.both (ih hrest)).map _

end Checked

open Checked

namespace Value

variable {α : Type} {check : Value → Checked α}

theorem sound_asText (v : Value) : v.asText.Sound := by
  unfold asText
  split
  · exact sound_ok _
  · exact sound_complain rfl

theorem sound_asList (hcheck : ∀ v, (check v).Sound) (v : Value) : (v.asList check).Sound := by
  unfold asList
  split
  · refine sound_all fun c hc => ?_
    obtain ⟨⟨item, i⟩, -, rfl⟩ := List.mem_map.1 hc
    exact (hcheck item).below _
  · exact sound_complain rfl

theorem sound_asNameMap (hcheck : ∀ v, (check v).Sound) (v : Value) : (v.asNameMap check).Sound := by
  unfold asNameMap
  split
  · refine (sound_all fun c hc => ?_).map _
    obtain ⟨⟨name, item⟩, -, rfl⟩ := List.mem_map.1 hc
    exact ((hcheck item).below _).map _
  · exact sound_complain rfl

theorem sound_asDescription {thing : String} {check : List (String × Value) → Checked α}
    (hcheck : ∀ fields, (check fields).Sound) (v : Value) : (v.asDescription thing check).Sound := by
  unfold asDescription
  split
  · exact hcheck _
  · exact sound_complain rfl

end Value

section Fields

variable {α : Type} (fields : List (String × Value)) (name : String) {check : Value → Checked α}

theorem sound_requiredField (hcheck : ∀ v, (check v).Sound) : (requiredField fields name check).Sound := by
  unfold requiredField
  split
  · exact (hcheck _).below _
  · exact (sound_complain rfl).below _

theorem sound_optionalField (hcheck : ∀ v, (check v).Sound) (default : α) :
    (optionalField fields name default check).Sound := by
  unfold optionalField
  split
  · exact (hcheck _).below _
  · exact sound_ok _

theorem sound_noOtherFields (known : List String) : (noOtherFields fields known).Sound := by
  unfold noOtherFields
  split
  · exact sound_ok _
  · next hne =>
    intro issues he
    cases he
    refine ⟨hne, fun issue hi => ?_⟩
    obtain ⟨field, -, rfl⟩ := List.mem_map.1 hi
    rfl

end Fields

/-! ### The parts -/

theorem sound_typeOfDocument (v : Value) : (typeOfDocument v).Sound := by
  refine Value.sound_asDescription (fun fields => ?_) v
  have hname := sound_optionalField fields "display_name" Value.sound_asText ""
  exact (hname.both (sound_noOtherFields fields _)).map _

theorem sound_installationOfDocument (v : Value) : (installationOfDocument v).Sound := by
  refine Value.sound_asDescription (fun fields => ?_) v
  have hfield := fun name => sound_requiredField fields name Value.sound_asText
  have hother := sound_noOtherFields fields ["type", "name", "home"]
  exact ((hfield "type").both ((hfield "name").both ((hfield "home").both hother))).map _

theorem sound_keyOfDocument (v : Value) : (keyOfDocument v).Sound := by
  refine v.sound_asText.bind fun s => ?_
  split
  · exact sound_ok _
  · exact sound_complain rfl

theorem sound_locationOfDocument (v : Value) : (locationOfDocument v).Sound := by
  refine Value.sound_asDescription (fun fields => ?_) v
  have hkey := sound_requiredField fields "key" sound_keyOfDocument
  have hhome := sound_requiredField fields "home" Value.sound_asText
  exact (hkey.both (hhome.both (sound_noOtherFields fields _))).map _

theorem sound_kindOfDocument (v : Value) : (kindOfDocument v).Sound := by
  unfold kindOfDocument
  split
  · split
    · exact sound_ok _
    · exact sound_complain rfl
  · exact sound_complain rfl

theorem sound_nodeOfDocument (v : Value) : (nodeOfDocument v).Sound := by
  refine Value.sound_asDescription (fun fields => ?_) v
  have hkind := sound_optionalField fields "kind" sound_kindOfDocument .agent
  have hlabels := sound_optionalField fields "labels" (Value.sound_asList Value.sound_asText) []
  have hlocations :=
    sound_optionalField fields "tool_locations" (Value.sound_asList sound_locationOfDocument) []
  exact (hkind.both (hlabels.both (hlocations.both (sound_noOtherFields fields _)))).map _

theorem sound_storeOfDocument (v : Value) : (storeOfDocument v).Sound := by
  unfold storeOfDocument
  split
  · exact sound_ok _
  · exact sound_ok _
  · exact sound_complain rfl

theorem sound_typesOfDocument (v : Value) : (typesOfDocument v).Sound := by
  refine (Value.sound_asNameMap sound_typeOfDocument v).bind fun types => ?_
  split
  · exact sound_ok _
  · exact sound_complain rfl

theorem sound_formOfDocument (document : Value) : (formOfDocument document).Sound := by
  refine Value.sound_asDescription (fun fields => ?_) document
  have hstore := sound_optionalField fields "store" sound_storeOfDocument none
  have htypes := sound_optionalField fields "tool_types" sound_typesOfDocument .empty
  have hinstallations :=
    sound_optionalField fields "installations" (Value.sound_asList sound_installationOfDocument) []
  have hnodes := sound_optionalField fields "nodes" (Value.sound_asNameMap sound_nodeOfDocument) .empty
  exact (hstore.both (htypes.both (hinstallations.both (hnodes.both (sound_noOtherFields fields _))))).map _

/-! ## What is accepted -/

/-- Identifiers of types that fit into keys. -/
def TypesFit (types : List (String × String)) : Prop := ∀ e ∈ types, e.1 ≠ "" ∧ '@' ∉ e.1.toList

/-- The parts of the document are well formed. -/
def IsForm (document : Value) : Prop :=
  ∃ store types installations nodes, HoldsParts document store types installations nodes ∧ TypesFit types

/-- The form of a configuration: its parts are well formed, each installation is of one of its types, and
no two installations are alike. -/
def IsConfig (document : Value) : Prop :=
  ∃ store types installations nodes, HoldsParts document store types installations nodes ∧ TypesFit types ∧
    InstallationsAgree (Entries.names types) installations

/-- The first installation that is not of one of the types, or is like one before it, and what is said
of it. -/
def Disagrees (types : List String) (installations : List InstallationSpec) (complaint : Complaint) : Prop :=
  ∃ before spec after, installations = before ++ spec :: after ∧ InstallationsAgree types before ∧
    ((spec.typeId ∉ types ∧ complaint = .undeclaredType spec.name spec.typeId) ∨
      (spec.typeId ∈ types ∧ (spec.typeId, spec.name) ∈ before.map (fun spec => (spec.typeId, spec.name)) ∧
        complaint = .duplicateInstallation spec.typeId spec.name))

/-! ### Names -/

/-- No table in the value has a name twice. -/
inductive Value.Distinct : Value → Prop
  | null : Distinct .null
  | boolean (b : Bool) : Distinct (.boolean b)
  | integer (n : Int) : Distinct (.integer n)
  | real (x : Binary64) : Distinct (.real x)
  | text (s : String) : Distinct (.text s)
  | moment (lexeme : String) : Distinct (.moment lexeme)
  | array {items : List Value} : (∀ v ∈ items, Distinct v) → Distinct (.array items)
  | table {fields : List (String × Value)} : (Entries.names fields).Nodup →
      (∀ f ∈ fields, Distinct f.2) → Distinct (.table fields)

theorem Value.Distinct.of_find? {fields : List (String × Value)} (h : (Value.table fields).Distinct)
    {name : String} {v : Value} (hv : Entries.find? name fields = some v) : v.Distinct := by
  cases h with
  | table _ hall => exact hall _ (Entries.mem_of_find? hv)

theorem NamedAt.nodup {α : Type} {fields : List (String × Value)} {name : String} {r : Value → α → Prop}
    {entries : List (String × α)} (hd : (Value.table fields).Distinct) (h : NamedAt fields name r entries) :
    (Entries.names entries).Nodup := by
  rcases h with ⟨-, rfl⟩ | ⟨inner, hfind, hentries⟩
  · exact List.nodup_nil
  · cases hd.of_find? hfind with
    | table hnodup _ =>
      rwa [names_of_forall₂ hentries fun _ _ he => he.1]

/-- In a document that has no name twice the parts have none either. -/
theorem HoldsParts.nodup {document : Value} {store : Option Path} {types : List (String × String)}
    {installations : List InstallationSpec} {nodes : List (String × NodeSpec)} (hd : document.Distinct)
    (h : HoldsParts document store types installations nodes) :
    (Entries.names types).Nodup ∧ (Entries.names nodes).Nodup := by
  obtain ⟨fields, rfl, -, -, htypes, -, hnodes⟩ := h
  exact ⟨htypes.nodup hd, hnodes.nodup hd⟩

theorem formOfDocument_of_distinct {document : Value} {config : Config} (hd : document.Distinct) :
    formOfDocument document = .ok config ↔
      HoldsParts document config.store config.toolTypes.entries config.installations config.nodes.entries ∧
        TypesFit config.toolTypes.entries := by
  have hfit : TypesFit config.toolTypes.entries ↔
      ∀ identifier ∈ config.toolTypes.names, fitsIntoKeys identifier = true := by
    simp only [TypesFit, NameMap.names, Entries.names, List.forall_mem_map, fitsIntoKeys_iff]
  rw [formOfDocument_eq_ok, ← hfit]
  refine and_congr_left' ⟨?_, fun h => ?_⟩
  -- where no name stands twice, the entries of a map are those of which it was made
  · rintro ⟨types, nodes, h, htypes, hnodes⟩
    obtain ⟨hnodup, hnodup'⟩ := h.nodup hd
    rw [← htypes, ← hnodes, NameMap.entries_ofList hnodup, NameMap.entries_ofList hnodup']
    exact h
  · exact ⟨_, _, h, NameMap.ext (NameMap.entries_ofList config.toolTypes.nodup),
      NameMap.ext (NameMap.entries_ofList config.nodes.nodup)⟩

/-- A document of well-formed parts holds the configuration of these parts. -/
theorem formOfDocument_of_parts {document : Value} {store : Option Path} {types : List (String × String)}
    {installations : List InstallationSpec} {nodes : List (String × NodeSpec)} (hd : document.Distinct)
    (h : HoldsParts document store types installations nodes) (hfit : TypesFit types) :
    ∃ config, formOfDocument document = .ok config ∧ config.toolTypes.names = Entries.names types ∧
      config.installations = installations := by
  obtain ⟨hnodup, hnodup'⟩ := h.nodup hd
  refine ⟨⟨store, .ofList types, installations, .ofList nodes⟩, (formOfDocument_of_distinct hd).2 ?_, ?_, rfl⟩
  · dsimp only
    rw [NameMap.entries_ofList hnodup, NameMap.entries_ofList hnodup']
    exact ⟨h, hfit⟩
  · rw [NameMap.names, NameMap.entries_ofList hnodup]

/-! ### The whole -/

theorem ofDocument_eq_ok {document : Value} {config : Config} : Config.ofDocument document = .ok config ↔
    formOfDocument document = .ok config ∧ InstallationsAgree config.toolTypes.names config.installations := by
  have hagree : disagreement? config.toolTypes [] config.installations = none ↔
      InstallationsAgree config.toolTypes.names config.installations := by
    rw [disagreement?_eq_none]
    exact and_iff_left fun _ _ => List.not_mem_nil
  rw [ofDocument_eq, ← hagree]
  constructor
  · intro h
    obtain ⟨read, hread, h⟩ := bind_eq_ok.1 h
    split at h
    · next hnone =>
      cases h
      exact ⟨hread, hnone⟩
    · cases h
  · rintro ⟨hread, hnone⟩
    refine bind_eq_ok.2 ⟨config, hread, ?_⟩
    rw [hnone]

/-- What is said of a document that is not accepted: what is not well formed in it, or where its
installations do not agree first. -/
theorem ofDocument_eq_error {document : Value} {issues : List Issue} (h : Config.ofDocument document = .error issues) :
    formOfDocument document = .error issues ∨
      ∃ config complaint, formOfDocument document = .ok config ∧
        Disagrees config.toolTypes.names config.installations complaint ∧ issues = [⟨[], complaint⟩] := by
  rw [ofDocument_eq] at h
  cases hread : formOfDocument document with
  | error found =>
    rw [hread] at h
    cases h
    exact .inl rfl
  | ok config =>
    rw [hread] at h
    dsimp only [Except.bind] at h
    split at h
    · cases h
    · next complaint hsome =>
      cases h
      obtain ⟨before, spec, after, hspecs, hbefore, hfirst⟩ := disagreement?_eq_some hsome
      have hagree := (disagreement?_eq_none.1 hbefore).1
      refine .inr ⟨config, complaint, rfl, ⟨before, spec, after, hspecs, hagree, ?_⟩, rfl⟩
      refine hfirst.imp_right fun ⟨hdeclared, hagain, hc⟩ => ⟨hdeclared, ?_, hc⟩
      exact hagain.resolve_left List.not_mem_nil

/-- A document in which no table has a name twice is accepted exactly if it has the form of a configuration,
and the configuration has the parts of the document, in their order. If it is not accepted something is
said. It is about parts that are not well formed, if there are any, and not about agreement; if all are
well formed it is one complaint, about the first installation that does not agree with the types or with
those before it. -/
theorem ofDocument_exact {document : Value} (hd : document.Distinct) :
    ((∃ config, Config.ofDocument document = .ok config) ↔ IsConfig document) ∧
    (∀ config, Config.ofDocument document = .ok config →
      HoldsParts document config.store config.toolTypes.entries config.installations config.nodes.entries) ∧
    ∀ issues, Config.ofDocument document = .error issues → issues ≠ [] ∧
      (¬ IsForm document ∧ (∀ issue ∈ issues, issue.complaint.isDisagreement = false) ∨
        ∃ store types installations nodes complaint,
          HoldsParts document store types installations nodes ∧ TypesFit types ∧
            Disagrees (Entries.names types) installations complaint ∧ issues = [⟨[], complaint⟩]) := by
  refine ⟨⟨?_, ?_⟩, ?_, ?_⟩
  · rintro ⟨config, h⟩
    obtain ⟨hform, hagree⟩ := ofDocument_eq_ok.1 h
    obtain ⟨hparts, hfit⟩ := (formOfDocument_of_distinct hd).1 hform
    exact ⟨_, _, _, _, hparts, hfit, hagree⟩
  · rintro ⟨store, types, installations, nodes, hparts, hfit, hagree⟩
    obtain ⟨config, hform, htypes, rfl⟩ := formOfDocument_of_parts hd hparts hfit
    exact ⟨config, ofDocument_eq_ok.2 ⟨hform, htypes ▸ hagree⟩⟩
  · intro config h
    obtain ⟨hform, -⟩ := ofDocument_eq_ok.1 h
    exact ((formOfDocument_of_distinct hd).1 hform).1
  · intro issues h
    rcases ofDocument_eq_error h with hform | ⟨config, complaint, hform, hdisagrees, rfl⟩
    · obtain ⟨hne, hall⟩ := sound_formOfDocument document issues hform
      refine ⟨hne, .inl ⟨?_, hall⟩⟩
      rintro ⟨store, types, installations, nodes, hparts, hfit⟩
      obtain ⟨config, hok, -⟩ := formOfDocument_of_parts hd hparts hfit
      rw [hok] at hform
      cases hform
    · obtain ⟨hparts, hfit⟩ := (formOfDocument_of_distinct hd).1 hform
      exact ⟨List.cons_ne_nil _ _, .inr ⟨_, _, _, _, complaint, hparts, hfit, hdisagrees, rfl⟩⟩

/-- A document without a store, with a type that has no display name, a key that has two separators and
nothing before the first, and a node of which nothing is said; and the document with its installation given
twice. -/
theorem ofDocument_exact_repeated :
    let installation : Value := .table [("name", .text "a@b"), ("home", .text ""), ("type", .text "T")]
    let location : Value := .table [("home", .text "h"), ("key", .text "@a@b")]
    let document (installations : List Value) : Value := .table [
      ("installations", .array installations), ("store", .null), ("tool_types", .table [("T", .table [])]),
      ("nodes", .table [("n", .table [("tool_locations", .array [location])]), ("", .table [])])]
    (document [installation]).Distinct ∧ IsConfig (document [installation]) ∧
      HoldsParts (document [installation]) none [("T", "")] [⟨"T", "a@b", ""⟩]
        [("n", ⟨.agent, [], [("@a@b", "h")]⟩), ("", ⟨.agent, [], []⟩)] ∧
      (document [installation, installation]).Distinct ∧ ¬ IsConfig (document [installation, installation]) := by
  intro installation location document
  have hinstallation : installation.Distinct := by
    refine .table (by decide) ?_
    simp only [List.forall_mem_cons]
    exact ⟨.text _, .text _, .text _, List.forall_mem_nil _⟩
  have hlocation : location.Distinct := by
    refine .table (by decide) ?_
    simp only [List.forall_mem_cons]
    exact ⟨.text _, .text _, List.forall_mem_nil _⟩
  have hempty : (Value.table []).Distinct := .table List.nodup_nil (List.forall_mem_nil _)
  have hnodes : Value.Distinct
      (.table [("n", .table [("tool_locations", .array [location])]), ("", .table [])]) := by
    refine .table (by decide) ?_
    simp only [List.forall_mem_cons]
    refine ⟨.table (by decide) ?_, hempty, List.forall_mem_nil _⟩
    exact List.forall_mem_singleton.2 (.array (List.forall_mem_singleton.2 hlocation))
  have hdocument : ∀ installations, (∀ v ∈ installations, v.Distinct) → (document installations).Distinct := by
    intro installations h
    refine .table (by simp [Entries.names]) ?_
    simp only [List.forall_mem_cons]
    have htypes : (Value.table [("T", .table [])]).Distinct :=
      .table (by decide) (List.forall_mem_singleton.2 hempty)
    exact ⟨.array h, .null, htypes, hnodes, List.forall_mem_nil _⟩
  have honce := hdocument [installation] (List.forall_mem_singleton.2 hinstallation)
  have htwice := hdocument [installation, installation]
    (List.forall_mem_cons.2 ⟨hinstallation, List.forall_mem_singleton.2 hinstallation⟩)
  have hread : Config.ofDocument (document [installation]) =
      .ok ⟨none, .ofList [("T", "")], [⟨"T", "a@b", ""⟩],
        .ofList [("n", ⟨.agent, [], [("@a@b", "h")]⟩), ("", ⟨.agent, [], []⟩)]⟩ :=
    toOption_eq_some.1 (by decide +kernel)
  have hrefused : (Config.ofDocument (document [installation, installation])).toOption = none := by
    decide +kernel
  obtain ⟨haccepted, hparts, -⟩ := ofDocument_exact honce
  refine ⟨honce, haccepted.1 ⟨_, hread⟩, hparts _ hread, htwice, fun h => ?_⟩
  obtain ⟨config, hconfig⟩ := (ofDocument_exact htwice).1.2 h
  rw [hconfig] at hrefused
  cases hrefused

end ToolSites
