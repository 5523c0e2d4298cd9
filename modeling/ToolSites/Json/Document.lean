import ToolSites.Binary64.Shortest
import ToolSites.Text.Spelling
/-!
# JSON documents

What a JSON text holds. The fields of a table keep the order in which they were
written.
-/

namespace ToolSites.Json

/-- A value of a document. -/
inductive Document
  | null
  | boolean (b : Bool)
  | integer (n : Int)
  | real (x : Binary64)
  | text (s : Spelling)
  | array (items : List Document)
  | table (fields : List (Spelling × Document))

namespace Document

instance : Inhabited Document := ⟨.null⟩

/-- Whether the value counts as the number one: a truth value counts as a number. -/
def isOne : Document → Bool
  | .boolean b => b
  | .integer n => n = 1
  | .real x => x = Binary64.one
  | _ => false

/-! ## Values in messages -/

/-- The texts with a comma and a space between them. -/
def commaSeparated (texts : List String) : String := ", ".intercalate texts

mutual

/-- The value as a message shows it. -/
def shown : Document → String
  | .null => "None"
  | .boolean b => if b then "True" else "False"
  | .integer n => toString n
  | .real x => x.text
  | .text s => s.quoted
  | .array items => "[" ++ commaSeparated (shownItems items) ++ "]"
  | .table fields => "\x7b" ++ commaSeparated (shownFields fields) ++ "\x7d"

/-- Each item as a message shows it. -/
def shownItems : List Document → List String
  | [] => []
  | v :: rest => shown v :: shownItems rest

/-- Each field as a message shows it: its quoted name and its value. -/
def shownFields : List (Spelling × Document) → List String
  | [] => []
  | (name, v) :: rest => (name.quoted ++ ": " ++ shown v) :: shownFields rest

end

end Document

end ToolSites.Json
