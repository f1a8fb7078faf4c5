/-
BrowserScript.Text.Search — searching and cutting text.

* `occursIn` tells whether a text contains another.
* `splitAt?` cuts at the first occurrence of a character, `splitOn` at every one.
* `replaceChar` puts a text in the place of every occurrence of a character.
* `joined` puts a separator between texts.
* `clip` shortens a long text and marks the cut.
-/

namespace BrowserScript.Text

/-- Whether `needle` stands somewhere in a text. -/
def occursIn (needle : List Char) : List Char → Bool
  | [] => needle.isEmpty
  | c :: rest => needle.isPrefixOf (c :: rest) || occursIn needle rest

/-- Whether a string contains another. -/
def contains (s needle : String) : Bool := occursIn needle.toList s.toList

/-- Whether a string begins with another. -/
def startsWith (s beginning : String) : Bool := beginning.toList.isPrefixOf s.toList

/-- Whether a string ends with another. -/
def endsWith (s ending : String) : Bool := ending.toList.reverse.isPrefixOf s.toList.reverse

/-- A string without its first `n` characters. -/
def dropFirst (s : String) (n : Nat) : String := String.ofList (s.toList.drop n)

/-- The parts before and after the first occurrence of `mark`, when there is one. -/
def splitAt? (mark : Char) : List Char → Option (List Char × List Char)
  | [] => none
  | c :: rest =>
    if c == mark then some ([], rest)
    else (splitAt? mark rest).map (fun parts => (c :: parts.1, parts.2))

/-- The parts between the occurrences of `mark`: always one more than there are occurrences. -/
def splitOn (mark : Char) : List Char → List (List Char)
  | [] => [[]]
  | c :: rest =>
    if c == mark then [] :: splitOn mark rest
    else match splitOn mark rest with
      | [] => [[c]]
      | part :: others => (c :: part) :: others

/-- Every occurrence of `mark` replaced by `other`. -/
def replaceChar (mark : Char) (other : List Char) (cs : List Char) : List Char :=
  cs.flatMap (fun c => if c == mark then other else [c])

/-- The texts one after the other, with `separator` between them. -/
def joined (separator : String) : List String → String
  | [] => ""
  | [s] => s
  | s :: rest => s ++ separator ++ joined separator rest

/-- A text of more than 80 characters is cut to 77 and an ellipsis. -/
def clip (s : String) : String :=
  if s.length ≤ 80 then s else String.ofList (s.toList.take 77) ++ "..."

end BrowserScript.Text
