import UserAgent.Text.Slice

/-!
# Tables

Rows of cells are written below their headers in columns, which are as wide as their widest cell.
-/

namespace UserAgent.Table

/-- Fill up a text with blanks on the right. -/
def padRight (width : Nat) (s : String) : String :=
  s ++ String.ofList (List.replicate (width - s.length) ' ')

/-- The length of the longest of a header and some cells. -/
def columnWidth (header : String) (cells : List String) : Nat :=
  cells.foldl (fun width cell => max width cell.length) header.length

/-- The widths of the columns. A row may be too short to have a cell in a column. -/
def columnWidths (headers : List String) (rows : List (List String)) : List Nat :=
  headers.zipIdx.map fun (header, i) => columnWidth header (rows.filterMap (·[i]?))

/-- A line of cells; those beyond the last column are left out. -/
def line (widths : List Nat) (cells : List String) : String :=
  Text.joinWith " | " (List.zipWith padRight widths cells)

/-- The line between the headers and the rows. -/
def rule (widths : List Nat) : String :=
  Text.joinWith "-+-" (widths.map fun width => String.ofList (List.replicate width '-'))

/-- The lines of a table. -/
def lines (headers : List String) (rows : List (List String)) : List String :=
  let widths := columnWidths headers rows
  line widths headers :: rule widths :: rows.map (line widths)

/-- A table as text. Without headers or rows there is none. -/
def render (headers : List String) (rows : List (List String)) : String :=
  if headers.isEmpty || rows.isEmpty then "" else Text.joinWith "\n" (lines headers rows)

end UserAgent.Table
