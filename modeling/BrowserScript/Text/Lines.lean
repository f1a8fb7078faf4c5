/-
BrowserScript.Text.Lines — lines.

* `isLineEnd` is the class of characters that end a line.
* `lines` cuts a text after each line end; a carriage return with the line feed after it is one end,
  and nothing follows the last end.
* `unifyLineEnds` turns carriage returns, alone or before a line feed, into line feeds, as every text
  file is read.
* `linesKeeping` cuts after each line feed and keeps it, for reading a file line by line.
-/

namespace BrowserScript.Text

/-- A character that ends a line. -/
def isLineEnd (c : Char) : Bool :=
  c == '\n' || c == '\r' || c == '\x0b' || c == '\x0c' || c == '\x1c' || c == '\x1d' || c == '\x1e' ||
    c == '\u0085' || c == '\u2028' || c == '\u2029'

/-- The lines of a text that follow `line`, the part of the first line already read, last character
first. -/
def linesAfter (line : List Char) : List Char → List (List Char)
  | [] => if line.isEmpty then [] else [line.reverse]
  | '\r' :: '\n' :: rest => line.reverse :: linesAfter [] rest
  | c :: rest => if isLineEnd c then line.reverse :: linesAfter [] rest else linesAfter (c :: line) rest

/-- The lines of a text, without their ends. -/
def lines (s : String) : List String := (linesAfter [] s.toList).map String.ofList

/-- All line ends written as line feeds. -/
def unifyLineEnds : List Char → List Char
  | [] => []
  | '\r' :: '\n' :: rest => '\n' :: unifyLineEnds rest
  | c :: rest => (if c == '\r' then '\n' else c) :: unifyLineEnds rest

/-- The pieces of a text that end with a line feed or with the text; `piece` is the part of the first
one already read, last character first. -/
def piecesAfter (piece : List Char) : List Char → List (List Char)
  | [] => if piece.isEmpty then [] else [piece.reverse]
  | c :: rest =>
    if c == '\n' then (c :: piece).reverse :: piecesAfter [] rest else piecesAfter (c :: piece) rest

/-- The lines of a text with their line feeds. -/
def linesKeeping (cs : List Char) : List (List Char) := piecesAfter [] cs

end BrowserScript.Text
