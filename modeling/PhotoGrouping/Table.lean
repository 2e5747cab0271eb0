import PhotoGrouping.Text.Width

namespace PhotoGrouping

open Text

/-- A table of texts. A cell has a line for each line of its text. -/
structure Table where
  header : List String
  rows : List (List String)
  deriving Repr, DecidableEq

namespace Table

/-- The characters of a horizontal rule: its ends, what it is made of, and its crossings. -/
structure Rule where
  left : Char
  stroke : Char
  crossing : Char
  right : Char

def top : Rule := ⟨'┌', '─', '┬', '┐'⟩

def middle : Rule := ⟨'╞', '═', '╪', '╡'⟩

def bottom : Rule := ⟨'└', '─', '┴', '┘'⟩

def Rule.across (r : Rule) (widths : List Nat) : String :=
  String.ofList (r.left ::
    List.intercalate [r.crossing] (widths.map fun w => List.replicate (w + 2) r.stroke) ++ [r.right])

def cellLines (s : String) : List String :=
  s.splitOn "\n"

def cellWidth (s : String) : Nat :=
  ((cellLines s).map displayWidth).foldl max 0

/-- The width of each column: that of its widest cell. -/
def widths (t : Table) : List Nat :=
  t.header.mapIdx fun i title =>
    (t.rows.map fun row => cellWidth ((row[i]?).getD "")).foldl max (cellWidth title)

def padTo (width : Nat) (s : String) : String :=
  s ++ String.ofList (List.replicate (width - displayWidth s) ' ')

def lineAt (widths : List Nat) (row : List String) (i : Nat) : String :=
  let cells := widths.mapIdx fun j w =>
    " " ++ padTo w (((cellLines ((row[j]?).getD ""))[i]?).getD "") ++ " "
  "│" ++ String.intercalate "┆" cells ++ "│"

/-- The lines of a row: as many as its highest cell has. -/
def rowLines (widths : List Nat) (row : List String) : List String :=
  let height := (row.map fun s => (cellLines s).length).foldl max 1
  (List.range height).map (lineAt widths row)

def lines (t : Table) : List String :=
  let ws := t.widths
  top.across ws :: rowLines ws t.header ++ middle.across ws :: t.rows.flatMap (rowLines ws) ++
    [bottom.across ws]

end Table

end PhotoGrouping
