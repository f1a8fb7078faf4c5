/-
BrowserScript.Text.Blank — blank characters.

Blanks separate words and are trimmed from both ends of a line: the white space of Unicode together
with the four information separators.

* `isBlank` is the class.
* `trim` removes the blanks at both ends of a text.
* `words` lists the maximal runs of characters that are not blank.
* `afterWords n` is what follows the first `n` words, blanks included.
-/
import BrowserScript.Text.Ranges

namespace BrowserScript.Text

/-- The blank code points. -/
def blankRanges : List (Nat × Nat) := [
  (0x9, 0xd), (0x1c, 0x20), (0x85, 0x85), (0xa0, 0xa0), (0x1680, 0x1680), (0x2000, 0x200a),
  (0x2028, 0x2029), (0x202f, 0x202f), (0x205f, 0x205f), (0x3000, 0x3000)]

/-- A character that separates words. -/
def isBlank (c : Char) : Bool := inRanges c.toNat blankRanges

/-- Leading blanks removed. -/
def trimStart (cs : List Char) : List Char := cs.dropWhile isBlank

/-- Trailing blanks removed. -/
def trimEnd (cs : List Char) : List Char := (cs.reverse.dropWhile isBlank).reverse

/-- Blanks removed at both ends. -/
def trimChars (cs : List Char) : List Char := trimEnd (trimStart cs)

/-- Blanks removed at both ends of a string. -/
def trim (s : String) : String := String.ofList (trimChars s.toList)

/-- What follows the first word: leading blanks and the run of other characters after them are
dropped. -/
def afterWord (cs : List Char) : List Char := (trimStart cs).dropWhile (fun c => !isBlank c)

/-- What follows the first `n` words. -/
def afterWords : Nat → List Char → List Char
  | 0, cs => cs
  | n + 1, cs => afterWords n (afterWord cs)

/-- The words of a text, in order. A word grows to the left: a character that is not blank joins the
word that begins right after it. -/
def words : List Char → List (List Char)
  | [] => []
  | c :: rest =>
    if isBlank c then words rest
    else match rest with
      | [] => [[c]]
      | d :: _ =>
        if isBlank d then [c] :: words rest
        else match words rest with
          | [] => [[c]]
          | word :: others => (c :: word) :: others

/-- The words of a string, in order. -/
def wordsOf (s : String) : List String := (words s.toList).map String.ofList

end BrowserScript.Text
