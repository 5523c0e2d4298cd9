import ToolSites.NameMap
import ToolSites.Value
/-!
# The tables of a TOML document

A document is built statement by statement: headers open tables and arrays of
tables, and pairs give values to dotted keys. What may still be opened, extended
or given a value is recorded beside the tables: a table with a header of its own
is `declared`, and a value written in one piece (an inline table or an array) is
`sealed`, with everything below it.
-/

namespace ToolSites.Toml

/-- The fields of a table. -/
abbrev Fields := List (String × Value)

/-- A dotted key, or the path of a header. -/
abbrev KeyPath := List String

/-! ## Tables below a table -/

/-- Changes the fields of the table at the path, which is created if it is
missing. Of an array of tables the last one is meant. Nothing comes out if
something else than a table stands on the way. -/
def changeAt (throughArrays : Bool) (change : Fields → Option Fields) :
    KeyPath → Fields → Option Fields
  | [], fields => change fields
  | name :: path, fields =>
    match Entries.find? name fields with
    | none => (changeAt throughArrays change path []).map fun t =>
      Entries.put name (.table t) fields
    | some (.table t) => (changeAt throughArrays change path t).map fun t =>
      Entries.put name (.table t) fields
    | some (.array items) =>
      match throughArrays, items.reverse with
      | true, .table t :: before => (changeAt throughArrays change path t).map fun t =>
        Entries.put name (.array (before.reverse ++ [.table t])) fields
      | _, _ => none
    | some _ => none

/-- Adds a field that must be new. -/
def addField? (name : String) (v : Value) (fields : Fields) : Option Fields :=
  if (Entries.find? name fields).isSome then none else some (Entries.put name v fields)

/-- Adds an empty table to an array of tables, which is created if it is missing. -/
def addTable? (name : String) (fields : Fields) : Option Fields :=
  match Entries.find? name fields with
  | none => some (Entries.put name (.array [.table []]) fields)
  | some (.array items) => some (Entries.put name (.array (items ++ [.table []])) fields)
  | some _ => none

/-- Gives a value to a dotted key that must be new. -/
def addAt? (throughArrays : Bool) (path : KeyPath) (v : Value) (fields : Fields) :
    Option Fields :=
  match path.getLast? with
  | none => none
  | some name => changeAt throughArrays (addField? name v) path.dropLast fields

/-- Whether the value was written in one piece. -/
def isPiece : Value → Bool
  | .array _ => true
  | .table _ => true
  | _ => false

/-! ## The document under construction -/

/-- A document under construction. -/
structure Draft where
  /-- The fields so far. -/
  fields : Fields := []
  /-- The paths that no header may declare again. -/
  declared : List KeyPath := []
  /-- The paths of values written in one piece. -/
  sealed : List KeyPath := []
  /-- The paths that dotted keys went through since the last header: the next
  header ends what may be added to them. -/
  visited : List KeyPath := []
  /-- The path of the last header. -/
  header : KeyPath := []

namespace Draft

/-- Whether the path lies in a value written in one piece. -/
def isSealed (d : Draft) (path : KeyPath) : Bool := d.sealed.any (·.isPrefixOf path)

/-- Whether the path was declared. -/
def isDeclared (d : Draft) (path : KeyPath) : Bool := d.declared.contains path

/-- A header starts: what dotted keys went through counts as declared. -/
def closeSection (d : Draft) : Draft :=
  { d with declared := d.visited ++ d.declared, visited := [] }

/-- The header of a table. -/
def openTable? (d : Draft) (path : KeyPath) : Option Draft :=
  if d.isDeclared path || d.isSealed path then none
  else (changeAt true some path d.fields).map fun fields =>
    { d with fields, declared := path :: d.declared, header := path }

/-- The header of the next table of an array: all that was recorded below the
path belonged to the table before. -/
def openArrayTable? (d : Draft) (path : KeyPath) : Option Draft :=
  if d.isSealed path then none
  else
    match path.getLast? with
    | none => none
    | some name =>
      (changeAt true (addTable? name) path.dropLast d.fields).map fun fields =>
        { d with
          fields
          declared := path :: d.declared.filter fun p => !path.isPrefixOf p
          sealed := d.sealed.filter fun p => !path.isPrefixOf p
          header := path }

/-- A value for a dotted key below the last header. No table on the way may have
a header of its own. -/
def assign? (d : Draft) (key : KeyPath) (v : Value) : Option Draft :=
  let way := (List.range (key.length - 1)).map fun i => d.header ++ key.take (i + 1)
  let path := d.header ++ key
  if way.any d.isDeclared || d.isSealed path.dropLast then none
  else (addAt? true path v d.fields).map fun fields =>
    { d with
      fields
      visited := way ++ d.visited
      sealed := if isPiece v then path :: d.sealed else d.sealed }

end Draft

end ToolSites.Toml
