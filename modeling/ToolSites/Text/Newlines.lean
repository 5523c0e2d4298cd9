/-!
# Line ends

A text may end its lines with a line feed, a carriage return, or both. Reading
turns each of these into one line feed.
-/

namespace ToolSites.Text

/-- The text with every line end written as one line feed. -/
def unifyNewlines : List Char → List Char
  | '\r' :: '\n' :: rest => '\n' :: unifyNewlines rest
  | c :: rest => (if c = '\r' then '\n' else c) :: unifyNewlines rest
  | [] => []

end ToolSites.Text
