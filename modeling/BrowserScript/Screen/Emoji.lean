/-
BrowserScript.Screen.Emoji — emoji written by their names.

A name between two colons, `:rocket:`, stands for an emoji; `:rocket-text:` and `:rocket-emoji:` add a
variation selector. Unknown names stay as they are.

* `codeAt` finds a name between colons at the beginning of a text.
* `replace` puts emoji in the place of all known names.
-/
import BrowserScript.Screen.EmojiNames
import BrowserScript.Text.Blank
import BrowserScript.Text.LowerCase

namespace BrowserScript.Screen.Emoji

/-- What stands between two colons at the beginning of a text, when that holds no blank. -/
def codeAt : List Char → Option (List Char)
  | ':' :: rest =>
    let code := rest.takeWhile (fun c => c != ':' && !Text.isBlank c)
    if (rest.drop code.length).head? == some ':' then some code else none
  | _ => none

/-- A code without its ending, if it has that ending. -/
def withoutEnding (code ending : List Char) : Option (List Char) :=
  if ending.isSuffixOf code then some (code.take (code.length - ending.length)) else none

/-- The name in a code, and the variation selector that it asks for. -/
def nameAndSelector (code : List Char) : List Char × List Char :=
  match withoutEnding code "-emoji".toList, withoutEnding code "-text".toList with
  | some name, _ => (name, ['\ufe0f'])
  | none, some name => (name, ['\ufe0e'])
  | none, none => (code, [])

/-- The emoji of a code. -/
def ofCode (code : List Char) : Option (List Char) :=
  let (name, selector) := nameAndSelector code
  (names.lookup (Text.lowerChars name)).map (· ++ selector)

/-- Replaces the known names of a text after its first `skip` characters, which are dropped. -/
def replaceAfter : Nat → List Char → List Char
  | _, [] => []
  | skip + 1, _ :: rest => replaceAfter skip rest
  | 0, c :: rest =>
    match codeAt (c :: rest) with
    | some code =>
      (ofCode code).getD (':' :: code ++ [':']) ++ replaceAfter (code.length + 1) rest
    | none => c :: replaceAfter 0 rest

/-- A text with emoji in the place of their names. -/
def replace (cs : List Char) : List Char := replaceAfter 0 cs

end BrowserScript.Screen.Emoji
