import ToolSites.Text.Blank
import ToolSites.Text.Columns
/-!
# Lines on a console

A text that goes to the console loses the control characters that would move the
cursor, and has spaces for its tabs.
-/

namespace ToolSites.Console

/-- The width of a console. -/
def width : Nat := 80

/-- Whether a character would move the cursor: bell, backspace, the vertical tab,
form feed and carriage return. -/
def movesCursor (c : Char) : Bool :=
  c = '\x07' || c = '\x08' || c = '\x0b' || c = '\x0c' || c = '\r'

/-- The text without characters that would move the cursor. -/
def withoutMoves (cs : List Char) : List Char := cs.filter fun c => !movesCursor c

/-- The parts of a line between tabs, from the given column on, with spaces in place
of the tabs. A tab is at least one space wide and goes on to a multiple of eight
columns. -/
def spaced (column : Nat) : List (List Char) → List Char
  | [] => []
  | [part] => part
  | part :: rest =>
    let before := part ++ [' ']
    let reached := column + Text.width before
    let spaces := (8 - reached % 8) % 8
    before ++ List.replicate spaces ' ' ++ spaced (reached + spaces) rest

/-- The line with spaces in place of its tabs. -/
def expandTabs (line : List Char) : List Char := spaced 0 (Text.parts '\t' line)

/-- The lines of a text as they are shown. -/
def shownLines (cs : List Char) : List String :=
  (Text.parts '\n' (withoutMoves cs)).map fun line => String.ofList (expandTabs line)

/-- A text as it is shown, with a line end after it. -/
def shown (s : String) : String := "\n".intercalate (shownLines s.toList) ++ "\n"

/-- A text that is shown as it is, but for the sequences that set colors. -/
def plain (s : String) : String := .ofList (go s.toList.length s.toList)
where
  /-- Leaves out each escape, its parameters and the letter that ends them. At most
  `fuel` characters are read. -/
  go : (fuel : Nat) → List Char → List Char
    | 0, _ => []
    | _, [] => []
    | fuel + 1, c :: rest =>
      match c, rest with
      | '\x1b', '[' :: body =>
        match body.dropWhile fun c => c.isDigit || c = ';' || c = '?' with
        | final :: after => if final.isAlpha then go fuel after else c :: go fuel rest
        | [] => c :: go fuel rest
      | _, _ => c :: go fuel rest

end ToolSites.Console
