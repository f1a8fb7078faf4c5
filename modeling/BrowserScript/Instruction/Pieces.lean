/-
BrowserScript.Instruction.Pieces — parameters between commas.

The text after a keyword phrase is cut at its commas. A comma inside single or double quotes does not
cut, and a backslash takes the meaning of the character after it away.

* `QuoteState` is what a reader knows at a place of the text; `QuoteState.next` reads one character.
* `pieces` cuts a text, with or without a limit on the number of cuts.
* `split` is the same with a limit on the number of pieces.
* `unquote` removes the quotes around a piece.
-/
namespace BrowserScript.Instruction

/-! ## Quotes and escapes -/

/-- Whether a character opens and closes quoted text. -/
def isQuote (c : Char) : Bool := c == '\'' || c == '"'

/-- A place in a text: inside the quotes `mark`, or outside; and whether the character before it is a
backslash that escapes the next one. -/
structure QuoteState where
  mark : Option Char
  escaped : Bool
  deriving DecidableEq, Repr

namespace QuoteState

/-- The beginning of a text. -/
def start : QuoteState := ⟨none, false⟩

/-- The place after one more character. -/
def next (s : QuoteState) (c : Char) : QuoteState :=
  if s.escaped then { s with escaped := false }
  else if c == '\\' then { s with escaped := true }
  else match s.mark with
    | some mark => if c == mark then { s with mark := none } else s
    | none => if isQuote c then { s with mark := some c } else s

/-- A place where a comma separates. -/
def separates (s : QuoteState) : Bool := s.mark.isNone && !s.escaped

end QuoteState

/-! ## Cutting at commas -/

/-- A character put before the first of some pieces. -/
def consPiece (c : Char) : List (List Char) → List (List Char)
  | [] => [[c]]
  | piece :: rest => (c :: piece) :: rest

/-- The pieces of a text from a place on, cut at most `cuts` times. -/
def pieces (s : QuoteState) (cuts : Option Nat) : List Char → List (List Char)
  | [] => [[]]
  | c :: rest =>
    if c == ',' && s.separates && cuts != some 0 then
      [] :: pieces (s.next c) (cuts.map (· - 1)) rest
    else consPiece c (pieces (s.next c) cuts rest)

/-- The number of cuts that a limit on the number of pieces leaves. -/
def cutsFor (limit : Option Int) : Option Nat := limit.map (fun n => (n - 1).toNat)

/-- The pieces of a text, at most `limit` of them: the last keeps all further commas. -/
def split (text : String) (limit : Option Int) : List String :=
  (pieces .start (cutsFor limit) text.toList).map String.ofList

/-! ## Removing quotes -/

/-- Whether a quote `mark` stands in a text without a backslash right before it; `escaped` tells
whether a backslash stands before the text. -/
def hasBare (mark : Char) (escaped : Bool) : List Char → Bool
  | [] => false
  | c :: rest => (c == mark && !escaped) || hasBare mark (c == '\\') rest

/-- Backslashes before quotes `mark` removed. -/
def unescape (mark : Char) : List Char → List Char
  | [] => []
  | [c] => [c]
  | c :: d :: rest =>
    if c == '\\' && d == mark then mark :: unescape mark rest else c :: unescape mark (d :: rest)

/-- The text inside the quotes around it, when it ends with the quote with which it begins and none of
these quotes stands bare in between; any other text stays as it is. -/
def unquoteChars (cs : List Char) : List Char :=
  match cs with
  | [] => []
  | mark :: rest =>
    if isQuote mark && rest.getLast? == some mark && !hasBare mark false rest.dropLast then
      unescape mark rest.dropLast
    else cs

/-- The text inside the quotes around a string. -/
def unquote (s : String) : String := String.ofList (unquoteChars s.toList)

end BrowserScript.Instruction
