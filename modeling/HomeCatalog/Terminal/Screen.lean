import HomeCatalog.Terminal.Wrapping

/-!
# What a terminal shows

Output is made of texts, titled panels and tables on a wide terminal.  It is shown line by line,
without frames and colours: the words of a line are set apart by single spaces, and empty lines are
left out.
-/

namespace HomeCatalog.Terminal

open Text (cells isBlank)

/-- A column of a table. -/
structure Column where
  heading : String
  /-- The width of its cells, if it is fixed. -/
  width : Option Nat
  deriving Repr, DecidableEq

/-- A piece of output. -/
inductive Block where
  | text (content : String)
  | panel (title content : String)
  | table (title : String) (columns : List Column) (rows : List (List String))
  deriving Repr, DecidableEq

/-- The number of cells in a line of the terminal. -/
def screenWidth : Nat := 4000

/-- The cells that a frame and a margin take on both sides together. -/
def frameWidth : Nat := 4

/-- The cells that stand around the text of a column: a margin on both sides. -/
def marginWidth : Nat := 2

/-- Whether a character ends a line where lines are counted.  A carriage return is not shown, and
the line feed is not the only one. -/
def isLineEnd (c : Char) : Bool :=
  c == '\n' || ('\x1c' ≤ c && c ≤ '\x1e') || c == '\x85' || c == '\u2028' || c == '\u2029'

/-- The lines of a text where all line ends count. -/
def countedLines (cs : List Char) : List (List Char) :=
  Text.lines (cs.map fun c => if isLineEnd c then '\n' else c)

/-- Whether a character sets words apart: white space, and the characters that frames are drawn
with. -/
def separatesWords (c : Char) : Bool :=
  isBlank c || (0x2500 ≤ c.toNat && c.toNat ≤ 0x257F)

/-- The words of a line. -/
def words (line : List Char) : List (List Char) :=
  (Text.splitOn ' ' (line.map fun c => if separatesWords c then ' ' else c)).filter fun word =>
    !word.isEmpty

/-- A line as it is shown. -/
def shownLine (line : List Char) : String :=
  String.ofList (Text.joinWith [' '] (words line))

/-- The lines that are shown of a line of the terminal. -/
def shownLines (line : List Char) : List String :=
  ((countedLines line).map shownLine).filter fun shown => !shown.isEmpty

/-- The cells that a text takes when no line is broken.  A tabulator takes none. -/
def naturalWidth (text : String) : Nat :=
  let lines := countedLines (text.toList.filter fun c => !isControl c)
  (lines.map cells).foldl max 0

/-- The width of a column with given cells on a terminal without end. -/
def columnWidth (column : Column) (contents : List String) : Nat :=
  column.width.getD (((column.heading :: contents).map naturalWidth).foldl max 0)

/-- The width of a table with given columns: they have margins, and lines around them. -/
def tableWidth (widths : List Nat) : Nat :=
  widths.foldl (fun total width => total + width + marginWidth + 1) 1

/-- The widths of the columns of a table.  If they are too much for the terminal, the widest
column that is not fixed gives way. -/
def columnWidths (columns : List Column) (rows : List (List String)) : List Nat :=
  let widths := columns.zipIdx.map fun (column, index) =>
    columnWidth column (rows.map fun row => row.getD index "")
  let widest := ((columns.zip widths).filterMap fun (column, width) =>
    if column.width.isNone then some width else none).foldl max 0
  let excess := tableWidth widths - screenWidth
  (columns.zip widths).map fun (column, width) =>
    if column.width.isNone && width = widest then width - excess else width

/-- The lines of a row with cells of given widths. -/
def rowLines (widths : List Nat) (row : List String) : List (List Char) :=
  let blocks := List.zipWith (wrap .cut) widths row
  let height := (blocks.map List.length).foldl max 0
  (List.range height).map fun index =>
    Text.joinWith [' '] (blocks.map fun lines => lines.getD index [])

/-- The lines of a piece of output on the terminal. -/
def Block.lines : Block → List (List Char)
  | text content => wrap .fold screenWidth content
  | panel title content => [title.toList] ++ wrap .fold (screenWidth - frameWidth) content
  | table title columns rows =>
      let widths := columnWidths columns rows
      [title.toList] ++ ((columns.map Column.heading) :: rows).flatMap (rowLines widths)

/-- The lines of output that are shown. -/
def screen (blocks : List Block) : List String :=
  (blocks.flatMap Block.lines).flatMap shownLines

end HomeCatalog.Terminal
