/-
BrowserScript.Screen.Wrap — lines of a given width.

The width of a text is counted in the cells of a screen: wide characters take two of them, marks that
are set over another character none. A line is broken before a word that does not fit any more; a word
that is wider than a whole line is cut.

* `width` is the width of a text.
* `pieces` cuts a word, `wrapped` breaks a text into lines.
-/
import BrowserScript.Text.Blank

namespace BrowserScript.Screen.Wrap

/-! ## Widths -/

/-- The code points of wide characters. -/
def wideRanges : List (Nat × Nat) := [
  (0x1100, 0x115f), (0x231a, 0x231b), (0x23e9, 0x23ec), (0x25fd, 0x25fe), (0x2614, 0x2615),
  (0x2648, 0x2653), (0x26bd, 0x26be), (0x26c4, 0x26c5), (0x2705, 0x2705), (0x270a, 0x270b),
  (0x2728, 0x2728), (0x274c, 0x274c), (0x2753, 0x2755), (0x2795, 0x2797), (0x2b1b, 0x2b1c),
  (0x2e80, 0x303e), (0x3041, 0x33ff), (0x3400, 0x4dbf), (0x4e00, 0xa4cf), (0xa960, 0xa97c),
  (0xac00, 0xd7a3), (0xf900, 0xfaff), (0xfe10, 0xfe19), (0xfe30, 0xfe6f), (0xff01, 0xff60),
  (0xffe0, 0xffe6), (0x17000, 0x18cd5), (0x1b000, 0x1b2fb), (0x1f300, 0x1f320), (0x1f32d, 0x1f335),
  (0x1f337, 0x1f37c), (0x1f37e, 0x1f393), (0x1f3a0, 0x1f3ca), (0x1f3e0, 0x1f3f0), (0x1f400, 0x1f43e),
  (0x1f440, 0x1f440), (0x1f442, 0x1f4fc), (0x1f4ff, 0x1f53d), (0x1f550, 0x1f567), (0x1f5fb, 0x1f64f),
  (0x1f680, 0x1f6c5), (0x1f6eb, 0x1f6ec), (0x1f7e0, 0x1f7eb), (0x1f90c, 0x1f9ff), (0x1fa70, 0x1fafa),
  (0x20000, 0x3fffd)]

/-- The code points of characters without a width. -/
def markRanges : List (Nat × Nat) := [
  (0x0, 0x1f), (0x7f, 0x9f), (0x300, 0x36f), (0x483, 0x489), (0x591, 0x5bd), (0x610, 0x61a),
  (0x64b, 0x65f), (0x1ab0, 0x1aff), (0x1dc0, 0x1dff), (0x200b, 0x200f), (0x2028, 0x202e),
  (0x2060, 0x2063), (0x20d0, 0x20f0), (0x302a, 0x302d), (0x3099, 0x309a), (0xfe00, 0xfe0f),
  (0xfe20, 0xfe2f)]

/-- The number of cells of a character. -/
def charWidth (c : Char) : Nat :=
  if Text.inRanges c.toNat markRanges then 0
  else if Text.inRanges c.toNat wideRanges then 2
  else 1

/-- The number of cells of a text. -/
def width (cs : List Char) : Nat := cs.foldl (fun n c => n + charWidth c) 0

/-! ## Breaking -/

/-- The words of a text with the blanks after them; the blanks at the beginning belong to the first
word. The parts make up the text, unless it holds nothing but blanks. -/
def wordsWithBlanks (cs : List Char) : List (List Char) :=
  let rec more : List Char → List (List Char)
    | [] => []
    | c :: rest =>
      match more rest with
      | [] => [[c]]
      | word :: others =>
        if Text.isBlank c && !(word.head?.map Text.isBlank).getD true then [c] :: word :: others
        else (c :: word) :: others
  let start := cs.takeWhile Text.isBlank
  match more (cs.dropWhile Text.isBlank) with
  | [] => []
  | word :: others => (start ++ word) :: others

/-- A word cut into pieces of at most some width; `piece` is the piece read so far, last character
first. -/
def pieces (limit : Nat) (piece : List Char) : List Char → List (List Char)
  | [] => [piece.reverse]
  | c :: rest =>
    if limit < width piece + charWidth c then piece.reverse :: pieces limit [c] rest
    else pieces limit (c :: piece) rest

/-- The lines of some words, behind a line that holds `line` already. -/
def linesAfter (limit : Nat) (line : List Char) : List (List Char) → List (List Char)
  | [] => [line]
  | word :: rest =>
    let bare := width (Text.trimEnd word)
    if bare + width line ≤ limit then linesAfter limit (line ++ word) rest
    else
      let before := if line.isEmpty then [] else [line]
      if limit < bare then
        let cut := pieces limit [] word
        before ++ cut.dropLast ++ linesAfter limit (cut.getLast?.getD []) rest
      else before ++ linesAfter limit word rest

/-- A text as lines of at most some width. -/
def wrapped (limit : Nat) (cs : List Char) : List (List Char) :=
  match wordsWithBlanks cs with
  | [] => [cs]
  | words => linesAfter limit [] words

end BrowserScript.Screen.Wrap
