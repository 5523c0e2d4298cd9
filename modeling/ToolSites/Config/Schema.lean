import ToolSites.Config.Basic
import ToolSites.Error
/-!
# The form of a configuration

`Config.ofDocument` reads a configuration off a document and finds everything
that is wrong with it: first the fields of a table in their fixed order, each
with all issues below it, then the fields that should not be there. Whether the
identifiers of types fit into keys is asked once all types are well formed, and
whether the installations agree with the types once there is no other issue.
-/

namespace ToolSites

/-! ## Collecting issues -/

/-- A value, or everything that is wrong with what should be it. -/
abbrev Checked (α : Type) := Except (List Issue) α

namespace Checked

variable {α β : Type}

/-- One complaint about the part at hand. -/
def complain (complaint : Complaint) : Checked α := .error [⟨[], complaint⟩]

/-- The issues as seen from the part around. -/
def below (step : Step) (c : Checked α) : Checked α :=
  c.mapError fun issues => issues.map fun issue => ⟨step :: issue.location, issue.complaint⟩

/-- Both values, or the issues of both. -/
def both (a : Checked α) (b : Checked β) : Checked (α × β) :=
  match a, b with
  | .ok a, .ok b => .ok (a, b)
  | .ok _, .error issues => .error issues
  | .error issues, .ok _ => .error issues
  | .error issues, .error more => .error (issues ++ more)

/-- All values, or the issues of all. -/
def all : List (Checked α) → Checked (List α)
  | [] => .ok []
  | c :: rest => (both c (all rest)).map fun (v, vs) => v :: vs

end Checked

open Checked

/-! ## Parts of a document -/

namespace Value

/-- A text. -/
def asText : Value → Checked String
  | .text s => .ok s
  | _ => complain .notText

/-- Items, each of which is checked. -/
def asList {α : Type} (check : Value → Checked α) : Value → Checked (List α)
  | .array items => all (items.zipIdx.map fun (v, i) => (check v).below (.item i))
  | _ => complain .notList

/-- Named values, each of which is checked. -/
def asNameMap {α : Type} (check : Value → Checked α) : Value → Checked (NameMap α)
  | .table fields =>
    (all (fields.map fun (name, v) => ((check v).below (.field name)).map fun a => (name, a))).map
      NameMap.ofList
  | _ => complain .notTable

/-- The fields of a table that describes a `thing`, which are checked together. -/
def asDescription {α : Type} (thing : String) (check : List (String × Value) → Checked α) :
    Value → Checked α
  | .table fields => check fields
  | _ => complain (.notDescription thing)

end Value

/-- A field that must be there. -/
def requiredField {α : Type} (fields : List (String × Value)) (name : String)
    (check : Value → Checked α) : Checked α :=
  match Entries.find? name fields with
  | some v => (check v).below (.field name)
  | none => (complain .missing).below (.field name)

/-- A field that may be missing. -/
def optionalField {α : Type} (fields : List (String × Value)) (name : String) (default : α)
    (check : Value → Checked α) : Checked α :=
  match Entries.find? name fields with
  | some v => (check v).below (.field name)
  | none => .ok default

/-- No other fields than those that are known. -/
def noOtherFields (fields : List (String × Value)) (known : List String) : Checked Unit :=
  match (fields.filter fun field => !known.contains field.1).map
      (fun field => (⟨[.field field.1], .unknownField⟩ : Issue)) with
  | [] => .ok ()
  | issues => .error issues

/-! ## The parts of a configuration -/

/-- The display name of a tool type. -/
def typeOfDocument : Value → Checked String :=
  Value.asDescription "ToolTypeConfig" fun fields =>
    (both (optionalField fields "display_name" "" Value.asText)
      (noOtherFields fields ["display_name"])).map Prod.fst

/-- An installation. -/
def installationOfDocument : Value → Checked InstallationSpec :=
  Value.asDescription "InstallationConfig" fun fields =>
    (both (requiredField fields "type" Value.asText)
      (both (requiredField fields "name" Value.asText)
        (both (requiredField fields "home" Value.asText)
          (noOtherFields fields ["type", "name", "home"])))).map
      fun (typeId, name, home, _) => ⟨typeId, name, home⟩

/-- The text of a key. -/
def keyOfDocument (v : Value) : Checked String :=
  v.asText.bind fun s =>
    match Key.parse s with
    | .ok _ => .ok s
    | .error fault => complain (.malformedKey fault)

/-- The key and the home of a location. -/
def locationOfDocument : Value → Checked (String × String) :=
  Value.asDescription "LocationConfig" fun fields =>
    (both (requiredField fields "key" keyOfDocument)
      (both (requiredField fields "home" Value.asText)
        (noOtherFields fields ["key", "home"]))).map
      fun (key, home, _) => (key, home)

/-- The kind of a node. -/
def kindOfDocument (v : Value) : Checked NodeKind :=
  match v with
  | .text word =>
    match NodeKind.ofText? word with
    | some kind => .ok kind
    | none => complain .notKind
  | _ => complain .notKind

/-- A node. -/
def nodeOfDocument : Value → Checked NodeSpec :=
  Value.asDescription "NodeConfig" fun fields =>
    (both (optionalField fields "kind" .agent kindOfDocument)
      (both (optionalField fields "labels" [] (Value.asList Value.asText))
        (both (optionalField fields "tool_locations" [] (Value.asList locationOfDocument))
          (noOtherFields fields ["kind", "labels", "tool_locations"])))).map
      fun (kind, labels, locations, _) => ⟨kind, labels, locations⟩

/-- A path, or nothing. -/
def storeOfDocument : Value → Checked (Option Path)
  | .null => .ok none
  | .text s => .ok (some (.parse s))
  | _ => complain .notPath

/-- Whether the identifier of a type fits into keys. -/
def fitsIntoKeys (identifier : String) : Bool :=
  identifier != "" && !identifier.toList.contains '@'

/-- The tool types, with identifiers that fit into keys. -/
def typesOfDocument (v : Value) : Checked (NameMap String) :=
  (v.asNameMap typeOfDocument).bind fun types =>
    match types.names.find? fun identifier => !fitsIntoKeys identifier with
    | none => .ok types
    | some identifier => complain (.unusableTypeId identifier)

/-! ## Agreement -/

/-- The first installation whose type is not declared, or that was there before.
`before` are the types and names of those before. -/
def disagreement? (types : NameMap String) (before : List (String × String)) :
    List InstallationSpec → Option Complaint
  | [] => none
  | spec :: rest =>
    if !types.contains spec.typeId then some (.undeclaredType spec.name spec.typeId)
    else if before.contains (spec.typeId, spec.name) then
      some (.duplicateInstallation spec.typeId spec.name)
    else disagreement? types ((spec.typeId, spec.name) :: before) rest

/-- The configuration that a document holds. -/
def Config.ofDocument (document : Value) : Checked Config :=
  (document.asDescription "ControllerConfig" fun fields =>
    (both (optionalField fields "store" none storeOfDocument)
      (both (optionalField fields "tool_types" .empty typesOfDocument)
        (both (optionalField fields "installations" [] (Value.asList installationOfDocument))
          (both (optionalField fields "nodes" .empty (Value.asNameMap nodeOfDocument))
            (noOtherFields fields ["store", "tool_types", "installations", "nodes"]))))).map
      fun (store, toolTypes, installations, nodes, _) =>
        (⟨store, toolTypes, installations, nodes⟩ : Config)).bind
    fun config =>
      match disagreement? config.toolTypes [] config.installations with
      | none => .ok config
      | some complaint => complain complaint

end ToolSites
