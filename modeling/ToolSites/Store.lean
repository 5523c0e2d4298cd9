import ToolSites.Error
import ToolSites.Event
import ToolSites.Files.Replace
import ToolSites.Json.Printer
import ToolSites.OverrideSet
import ToolSites.Text.Newlines
/-!
# The store

Sets of overrides that were edited are kept in a document of their own, the
store: a table with a version and, under each node, the list of its keys and
homes. What else a document holds is ignored.

`Store.document` and `Store.text` go from sets to a document and its text,
`Store.save` to a file. Back from a document there are two steps. `Store.ofDocument`
and `Store.fetch` give what is listed as it is spelled, or tell what is wrong;
`Store.sets?` and `Store.load` make sets of it, if all that is spelled is text.
-/

namespace ToolSites

/-- Sets of overrides by the name of their node. -/
abbrev NodeSets := NameMap OverrideSet

namespace Store

open Json (Document)

/-! ## Writing -/

/-- One entry of a set. -/
def entryDocument (pair : String × String) : Document :=
  .table [(.of "key", .text (.of pair.1)), (.of "home", .text (.of pair.2))]

/-- The table that holds the sets. -/
def document (sets : NodeSets) : Document :=
  .table [
    (.of "version", .integer 1),
    (.of "nodes", .table (sets.entries.map fun e =>
      (.of e.1, .array (e.2.pairs.map entryDocument))))]

/-- The text of a store. -/
def text (sets : NodeSets) : List Char := Json.write (document sets) ++ ['\n']

/-- Stores the sets at the path, in place of those stored there. -/
def save [Host] (files : FileTree) (path : Path) (sets : NodeSets) : Except Error Unit × FileTree :=
  let (saved, files) := files.replace path (Text.Utf8.encode (text sets))
  (saved.mapError .file, files)

/-! ## What a document lists -/

/-- An entry as it is spelled: both halves of its key, and its home. -/
structure Listing where
  typeId : Spelling
  name : Spelling
  home : Spelling
  deriving DecidableEq, Repr

/-- The entries of each node. -/
abbrev Listings := List (Spelling × List Listing)

/-- The key and the home of one entry. -/
def entryOfDocument (node : Spelling) : Document → Except StoreProblem (Spelling × Spelling)
  | .table fields =>
    match Entries.find? (.of "key") fields, Entries.find? (.of "home") fields with
    | some (.text key), some (.text home) => .ok (key, home)
    | _, _ => .error (.entryFields node)
  | _ => .error (.entryNotTable node)

/-- The key, split at its first separator, and the home. -/
def listing (pair : Spelling × Spelling) : Except StoreProblem Listing :=
  match pair.1.dropWhile (· != .char '@') with
  | [] => .error (.malformedKey pair.1)
  | _ :: name => .ok ⟨pair.1.takeWhile (· != .char '@'), name, pair.2⟩

/-- The entries of one node. All of them are looked at before any key. -/
def setOfDocument (node : Spelling) : Document → Except StoreProblem (List Listing)
  | .array items => (items.mapM (entryOfDocument node)).bind fun pairs => pairs.mapM listing
  | _ => .error (.notList node)

/-- The entries of all nodes. -/
def nodesOfDocument : Document → Except StoreProblem Listings
  | .table fields =>
    fields.mapM fun field => (setOfDocument field.1 field.2).map fun set => (field.1, set)
  | _ => .error .nodes

/-- What a document lists. A table without a version has this one, and a table without
nodes has none. -/
def ofDocument : Document → Except StoreProblem Listings
  | .table fields =>
    let version := (Entries.find? (.of "version") fields).getD (.integer 1)
    if version.isOne then
      nodesOfDocument ((Entries.find? (.of "nodes") fields).getD (.table []))
    else .error (.version version)
  | _ => .error .notTable

/-- What a text lists; `path` is where it was found. -/
def ofText [Host] (path : Path) (text : List Char) : Except Error Listings :=
  match Json.read (Text.unifyNewlines text) with
  | .ok document => (ofDocument document).mapError (.store path)
  | .error (.malformed problem place) => .error (.store path (.malformed problem place))
  | .error (.tooManyDigits digits) => .error (.tooManyDigits digits)
  | .error .tooDeep => .error .tooDeep

/-- What the file at the path lists. Nothing comes out if no file is there. -/
def fetch? [Host] (files : FileTree) (path : Path) : Except Error (Option Listings) := do
  if ← (files.isFile path).mapError .file then
    let bytes ← (files.read path).mapError .file
    let text ← (Text.Utf8.decode bytes).mapError .undecodable
    return some (← ofText path text)
  else return none

/-- What is stored at the path, as it is spelled: nothing if there is no file. -/
def fetch [Host] (files : FileTree) (path : Path) : Except Error Listings :=
  (fetch? files path).map fun listed => listed.getD []

/-- What loading tells. -/
def loadEvents [Host] (files : FileTree) (path : Path) : List Event :=
  match fetch? files path with
  | .ok (some listed) => [.storeLoaded listed.length path]
  | _ => []

/-! ## Sets -/

/-- The location that is listed. -/
def Listing.location? (l : Listing) : Option Location := do
  return .unresolved (← Key.of? (← l.typeId.text?) (← l.name.text?)) (← l.home.text?)

/-- The set that is listed under a name. -/
def setOfListings (e : Spelling × List Listing) : Option (String × OverrideSet) := do
  return (← e.1.text?, ⟨← e.2.mapM Listing.location?⟩)

/-- The sets that are listed, if all that is spelled is text. -/
def sets? (listed : Listings) : Option NodeSets := (listed.mapM setOfListings).map .ofList

/-- The sets that are stored at the path. -/
def load [Host] (files : FileTree) (path : Path) : Except Error NodeSets :=
  (fetch files path).bind fun listed =>
    match sets? listed with
    | some sets => .ok sets
    | none => .error .unpaired

end Store

end ToolSites
