/-
BrowserScript.Screen.Block — what is shown on a screen.

Blocks are shown without frames: every line of the screen is the cells between its vertical borders,
trimmed, with one blank in the place of every run of blanks, and with ` | ` between them. Lines that hold
nothing are not shown.

* `Block` is a text, a panel with a title, or a table.
* `Block.lines` are the lines of a block.
-/
import BrowserScript.Screen.Markup
import BrowserScript.Screen.Wrap
import BrowserScript.Text.Lines

namespace BrowserScript.Screen

/-! ## Lines -/

/-- A vertical border between cells. -/
def isBorder (c : Char) : Bool := c == '│' || c == '┃'

/-- A character that frames are drawn with. -/
def isFrame (c : Char) : Bool := '\u2500' ≤ c && c ≤ '\u257f'

/-- A cell as it is shown: without frames and blanks at its ends, and with single blanks inside. -/
def cellText (cs : List Char) : String :=
  let outer : Char → Bool := fun c => isFrame c || c == ' '
  let inner := ((cs.dropWhile outer).reverse.dropWhile outer).reverse
  Text.joined " " (Text.wordsOf (String.ofList inner))

/-- A line cut at its borders. -/
def cellsOf : List Char → List (List Char)
  | [] => [[]]
  | c :: rest =>
    if isBorder c then [] :: cellsOf rest
    else match cellsOf rest with
      | [] => [[c]]
      | cell :: others => (c :: cell) :: others

/-- Cells without the empty ones at both ends. -/
def trimCells (cells : List String) : List String :=
  ((cells.dropWhile (· == "")).reverse.dropWhile (· == "")).reverse

/-- A line as it is shown. -/
def lineText (s : String) : String :=
  Text.joined " | " (trimCells ((cellsOf s.toList).map cellText))

/-- The shown lines of a drawn text. -/
def linesOf (drawn : String) : List String :=
  ((Text.lines drawn).map lineText).filter (· != "")

/-! ## Blocks -/

/-- What is shown: a text, a panel with a title around some texts, or a table with a title. All texts
hold markup. -/
inductive Block where
  | text (markup : String)
  | panel (title : String) (body : List String)
  | table (title : String) (columns : List String) (rows : List (List String))
  deriving Repr

/-- The line feeds of a title are shown as blanks. -/
def titleText (markup : String) : Except Markup.Fault String :=
  (Markup.plain markup).map (fun s => String.ofList (Text.replaceChar '\n' [' '] s.toList))

/-- The lines of a cell. -/
def cellLines (markup : String) : Except Markup.Fault (List String) :=
  (Markup.plain markup).map (fun s => (Text.splitOn '\n' s.toList).map String.ofList)

/-- The width of a cell. -/
def cellWidth (lines : List String) : Nat :=
  (lines.flatMap Text.lines).foldl (fun n line => max n (Wrap.width line.toList)) 0

/-- The width of a table. Each column is as wide as its widest cell and has a blank on both sides;
borders stand between the columns and at both ends. -/
def tableWidth (columns : Nat) (rows : List (List (List String))) : Nat :=
  let widthOf (i : Nat) : Nat := rows.foldl (fun n row => max n (cellWidth ((row[i]?).getD []))) 0
  (List.range columns).foldl (fun n i => n + (widthOf i + 3)) 1

/-- The lines of the title of a table, which is no wider than the table. -/
def tableTitle (limit : Nat) (lines : List String) : List String :=
  lines.flatMap (fun line => (Wrap.wrapped limit line.toList).map String.ofList)

/-- The drawn lines of a row whose cells have some lines each. -/
def rowLines (cells : List (List String)) : List String :=
  let height := cells.foldl (fun n lines => max n lines.length) 0
  (List.range height).map (fun i => Text.joined "│" (cells.map (fun lines => (lines[i]?).getD "")))

namespace Block

/-- The drawn lines of a block. -/
def draw : Block → Except Markup.Fault (List String)
  | .text markup => cellLines markup
  | .panel title body => do
    let title ← titleText title
    let body ← body.mapM cellLines
    return title :: body.flatten
  | .table title columns rows => do
    let title ← cellLines title
    let rows ← (columns :: rows).mapM (fun cells => cells.mapM cellLines)
    return tableTitle (tableWidth columns.length rows) title ++ rows.flatMap rowLines

/-- The shown lines of a block. -/
def lines (b : Block) : Except Markup.Fault (List String) :=
  b.draw.map (fun drawn => drawn.flatMap linesOf)

end Block
end BrowserScript.Screen
