import ToolSites.Binary64.Basic
/-!
# Document values

What a configuration document holds. The fields of a table keep the order in which they
were written.
-/

namespace ToolSites

/-- A value of a document. -/
inductive Value
  | null
  | boolean (b : Bool)
  | integer (n : Int)
  | real (x : Binary64)
  | text (s : String)
  /-- A date or a time of day, as it was written. -/
  | moment (lexeme : String)
  | array (items : List Value)
  | table (fields : List (String × Value))

namespace Value

instance : Inhabited Value := ⟨.null⟩

end Value

end ToolSites
