import DocLedger.Console.Layout
import DocLedger.Console.Markup

/-!
# Tables

A table has a title, columns with headers, and rows of cells, all of them
marked text.  A column is as wide as its widest line with a blank on either
side.  When the table is wider than the terminal its widest columns are made
narrower, and what does not fit into a cell is cut off.
-/

namespace DocLedger.Console

/-- A table of marked texts. -/
structure Table where
  title : String
  header : List String
  rows : List (List String)
deriving Repr

/-- Whether a character ends a line when the width of a text is taken. -/
def endsLine (c : Char) : Bool :=
  c == '\n' || (0x1c ≤ c.toNat && c.toNat ≤ 0x1e) ||
    [0x85, 0x2028, 0x2029].contains c.toNat

def textWidth (text : String) : Nat :=
  (((withoutControls text.toList).splitOnP endsLine).map Text.width).foldl max 0

def cellPadding : Nat := 2

def columnWidth (texts : List String) : Nat :=
  (texts.map textWidth).foldl max 0 + cellPadding

/-- A quotient rounded to the nearest integer, and to the even one of two. -/
def roundedQuotient (n d : Nat) : Nat :=
  let q := n / d
  let r := n % d
  if 2 * r < d then q else if 2 * r == d then q + q % 2 else q + 1

/-- Take an excess from the chosen columns in equal parts, but not more than
some width from each. -/
def takeEqually (excess shares most : Nat) : List (Nat × Bool) → List Nat
  | [] => []
  | (width, chosen) :: rest =>
    if chosen && 0 < shares then
      let part := min most (roundedQuotient excess shares)
      (width - part) :: takeEqually (excess - part) (shares - 1) most rest
    else width :: takeEqually excess shares most rest

def total : List Nat → Nat
  | [] => 0
  | width :: rest => width + total rest

/-- Make the widest columns narrower until all fit into a width, at most as
many times as the first argument says. -/
def narrowWidest (width : Nat) : Nat → List Nat → List Nat
  | 0, widths => widths
  | rounds + 1, widths =>
    let excess := total widths - width
    let widest := widths.foldl max 0
    let second := (widths.filter (· != widest)).foldl max 0
    if excess == 0 || widest == second then widths
    else
      let chosen := widths.map fun w => (w, w == widest)
      narrowWidest width rounds
        (takeEqually excess (widths.count widest) (min excess (widest - second)) chosen)

/-- The widths of columns made to fit into a width. -/
def fitted (width : Nat) (widths : List Nat) : List Nat :=
  narrowWidest width (total widths - width) widths

/-- A rule of a table: its left end, its line, its crossings and its right
end. -/
structure Rule where
  left : Char
  line : Char
  cross : Char
  right : Char

def topRule : Rule := ⟨'┏', '━', '┳', '┓'⟩

def headRule : Rule := ⟨'┡', '━', '╇', '┩'⟩

def bottomRule : Rule := ⟨'└', '─', '┴', '┘'⟩

/-- Parts of a line between bars. -/
def barred (left cross right : Char) (parts : List (List Char)) : List Char :=
  left :: [cross].intercalate parts ++ [right]

def Rule.over (r : Rule) (widths : List Nat) : List Char :=
  barred r.left r.cross r.right (widths.map fun w => List.replicate w r.line)

/-- The lines of a row.  Cells with fewer lines than others are filled up, those
of the header from above. -/
def rowLines (bar : Char) (isHeader : Bool) (widths : List Nat) (cells : List String) :
    List (List Char) :=
  let laid := (widths.zip cells).map fun (w, cell) => (w, wrap (w - cellPadding) .cuts cell)
  let height := (laid.map fun (_, ls) => ls.length).foldl max 1
  let filled := laid.map fun (w, ls) =>
    let empty := List.replicate (height - ls.length) ([] : List Char)
    (if isHeader then empty ++ ls else ls ++ empty).map fun l =>
      ' ' :: padded (w - cellPadding) l ++ [' ']
  (List.range height).map fun i =>
    barred bar bar bar (filled.map fun ls => (ls[i]?).getD [])

namespace Table

/-- The columns of a table: each header and the cells under it. -/
def columns (t : Table) : List (List String) :=
  (List.range t.header.length).map fun i =>
    (t.header[i]?).getD "" :: t.rows.map fun row => (row[i]?).getD ""

/-- The columns of a table when they have been read; a fault is that of the
first column which has one. -/
def marked (t : Table) : Except Fault (List (List Marked)) :=
  t.columns.mapM fun column => column.mapM Marked.ofString

/-- The rows of some columns, the header among them. -/
def rowsOf (columns : List (List Marked)) (count : Nat) : List (List Marked) :=
  (List.range count).map fun i => columns.filterMap fun column => column[i]?

/-- The lines of a table on a terminal of some width.  The columns are read
before the title; then the title is shown, and row after row. -/
def lines (t : Table) (width : Nat) : Except Fault (List (List Char)) := do
  let columns ← t.marked
  let borders := columns.length + 1
  let room := width - borders
  let widths := fitted room
    (columns.map fun column => min room (columnWidth (column.map fun m => String.ofList m.text)))
  let title ← render t.title
  let all := total widths + borders
  let rows ← (rowsOf columns (t.rows.length + 1)).mapM fun row => row.mapM Marked.shown
  return (wrap all .breaks title).map (centred all) ++
    topRule.over widths :: (rows.take 1).flatMap (rowLines '┃' true widths) ++
    headRule.over widths :: (rows.drop 1).flatMap (rowLines '│' false widths) ++
    [bottomRule.over widths]

end Table

end DocLedger.Console
