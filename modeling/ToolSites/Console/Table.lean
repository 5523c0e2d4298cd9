import ToolSites.Console.Markup
/-!
# Tables

A table has a title, columns with headers, and rows of cells, all of which may
hold markup. It is shown with a rule below the headers and blank lines around
its body. A cell of several lines makes its row as high.
-/

namespace ToolSites.Console

/-- A table of texts. -/
structure Table where
  title : String
  columns : List String
  rows : List (List String)
  deriving DecidableEq, Repr

namespace Table

/-- The cells of each column, header first. -/
def byColumn (t : Table) : List (List String) :=
  t.columns.zipIdx.map fun (header, i) => header :: t.rows.map fun row => row[i]?.getD ""

/-- How many columns of the console a line takes. -/
def lineWidth (line : String) : Nat := Text.width line.toList

/-- The line with blanks up to the width. -/
def padded (width : Nat) (line : String) : String :=
  line ++ .ofList (List.replicate (width - lineWidth line) ' ')

/-- The lines of a row of cells, given the widths of the columns. -/
def rowLines (widths : List Nat) (row : List (List String)) : List String :=
  let height := (row.map List.length).foldl max 0
  (List.range height).map fun i =>
    " " ++ "  ".intercalate ((row.zip widths).map fun (cell, width) =>
      padded width (cell[i]?.getD ""))

/-- The columns turned into rows. -/
def transpose {α : Type} (rows : Nat) (columns : List (List α)) : List (List α) :=
  (List.range rows).map fun i => columns.filterMap fun column => column[i]?

/-- The table as it is shown, with or without pictographs for their codes. The
markup of the cells is read column by column and that of the title comes last;
then the styles of the title are looked at and those of the cells row by row. -/
def shown [Host] (emoji : Bool) (t : Table) : Except MarkupFault String := do
  let columns ← t.byColumn.mapM fun column =>
    column.mapM fun cell => Markup.Styled.parse emoji cell.toList
  let title ← Markup.Styled.parse emoji t.title.toList
  title.checked true
  let rows := transpose (t.rows.length + 1) columns
  rows.forM fun row => row.forM fun cell => cell.checked false
  let widths := columns.map fun column =>
    ((column.flatMap fun cell => shownLines cell.text).map lineWidth).foldl max 0
  let lines := rows.map fun row => rowLines widths (row.map fun cell => shownLines cell.text)
  let rule := " " ++ .ofList (List.replicate (widths.foldl (· + · + 2) 0 - 2) '─')
  let body := match lines with
    | [] => []
    | header :: rows => header ++ [rule] ++ rows.flatten
  return "\n".intercalate (shownLines title.text ++ [""] ++ body ++ ["", ""])

end Table

end ToolSites.Console
