/-
BrowserScript.Text.Fold — comparing without regard to case.

Words of ASCII letters are looked for in any case. Four characters outside ASCII count as letters too:
the long s as s, the dotted capital and the dotless small i as i, the Kelvin sign as k.

* `foldChar` is the letter that a character counts as.
* `occursFolded` looks for a word in lower case.
-/
import BrowserScript.Text.Search

namespace BrowserScript.Text

/-- The lower-case ASCII letter that a character counts as; any other character stands for itself. -/
def foldChar (c : Char) : Char :=
  if c == '\u017f' then 's'
  else if c == '\u0130' || c == '\u0131' then 'i'
  else if c == '\u212a' then 'k'
  else c.toLower

/-- Whether a word in lower case occurs in a text in any case. -/
def occursFolded (word : String) (s : String) : Bool :=
  occursIn word.toList (s.toList.map foldChar)

end BrowserScript.Text
