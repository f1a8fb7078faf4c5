/-
BrowserScript.Screen.Markup — text with styles.

A marked-up text holds tags in square brackets: `[bold]` opens a style, `[/bold]` closes it and `[/]`
closes the one opened last. A backslash before a tag makes it plain text.

* `escape` protects the tags of a text that is to be shown as it is.
* `pieces` cuts a marked-up text into plain parts and tags.
* `plain` is the text that is seen. It fails exactly when a closing tag finds nothing to close.
-/
import BrowserScript.Screen.Emoji
import BrowserScript.Text.Blank
import BrowserScript.Text.LowerCase

namespace BrowserScript.Screen.Markup

/-! ## Tags -/

/-- A character that can begin a tag. -/
def beginsTag (c : Char) : Bool := ('a' ≤ c && c ≤ 'z') || c == '#' || c == '/' || c == '@'

/-- The part of a text before the next closing bracket, when no opening bracket comes first. -/
def upToClose : List Char → Option (List Char)
  | [] => none
  | c :: rest =>
    if c == ']' then some []
    else if c == '[' then none
    else (upToClose rest).map (c :: ·)

/-- The tag that a text after an opening bracket begins with. -/
def tagAfterBracket : List Char → Option (List Char)
  | [] => none
  | c :: rest => if beginsTag c then (upToClose rest).map (c :: ·) else none

/-- The tag at the beginning of a text, behind any number of backslashes. -/
def tagAt (cs : List Char) : Option (Nat × List Char) :=
  let slashes := (cs.takeWhile (· == '\\')).length
  match cs.drop slashes with
  | '[' :: rest => (tagAfterBracket rest).map (slashes, ·)
  | _ => none

/-! ## Protecting text -/

/-- Protects the tags of a text after its first `skip` characters, which are dropped. The backslashes
before a tag are doubled, and one more is added. -/
def escapeTags : Nat → List Char → List Char
  | _, [] => []
  | skip + 1, _ :: rest => escapeTags skip rest
  | 0, c :: rest =>
    match tagAt (c :: rest) with
    | some (slashes, tag) =>
      List.replicate (2 * slashes + 1) '\\' ++ '[' :: tag ++ ']' ::
        escapeTags (slashes + tag.length + 1) rest
    | none => c :: escapeTags 0 rest

/-- A single backslash at the end of a text is doubled: a tag may follow. -/
def closeSlash (cs : List Char) : List Char :=
  if (cs.reverse.takeWhile (· == '\\')).length == 1 then cs ++ ['\\'] else cs

/-- A text as markup that shows it. -/
def escape (s : String) : String := String.ofList (closeSlash (escapeTags 0 s.toList))

/-! ## Reading markup -/

/-- A part of a marked-up text. -/
inductive Piece where
  | text (cs : List Char)
  | tag (cs : List Char)
  deriving Repr, DecidableEq

/-- The plain part read so far, if there is one. -/
def flush (seen : List Char) : List Piece := if seen.isEmpty then [] else [.text seen.reverse]

/-- What a tag behind backslashes stands for: every two of them are one backslash, and one more makes
the tag plain text. -/
def tagPieces (slashes : Nat) (tag : List Char) : List Piece :=
  (if slashes / 2 == 0 then [] else [.text (List.replicate (slashes / 2) '\\')]) ++
    [if slashes % 2 == 1 then .text ('[' :: tag ++ [']']) else .tag tag]

/-- The pieces of a text after its first `skip` characters, which are dropped; `seen` is the plain part
read so far, last character first. -/
def piecesAfter (seen : List Char) : Nat → List Char → List Piece
  | _, [] => flush seen
  | skip + 1, _ :: rest => piecesAfter seen skip rest
  | 0, c :: rest =>
    match tagAt (c :: rest) with
    | some (slashes, tag) =>
      flush seen ++ tagPieces slashes tag ++ piecesAfter [] (slashes + tag.length + 1) rest
    | none => piecesAfter (c :: seen) 0 rest

/-- The pieces of a marked-up text. -/
def pieces (cs : List Char) : List Piece := piecesAfter [] 0 cs

/-! ## Seeing it -/

/-- A closing tag that closes nothing. -/
structure Fault where
  tag : String
  deriving Repr, DecidableEq

/-- A backslash before an opening bracket vanishes. -/
def openBrackets : List Char → List Char
  | [] => []
  | '\\' :: '[' :: rest => '[' :: openBrackets rest
  | c :: rest => c :: openBrackets rest

/-- A character that moves the cursor or sounds the bell, and is never written. -/
def isControl (c : Char) : Bool :=
  c == '\x07' || c == '\x08' || c == '\x0b' || c == '\x0c' || c == '\r'

/-- A plain part as it is seen. -/
def shown (cs : List Char) : List Char :=
  (Emoji.replace (openBrackets cs)).filter (fun c => !isControl c)

/-- The style that a tag names, without what follows an equals sign. -/
def styleName (tag : List Char) : String :=
  Text.lower (String.ofList (Text.trimChars (tag.takeWhile (· != '='))))

/-- The open styles after a tag, innermost first. -/
def afterTag (styles : List String) (tag : List Char) : Except Fault (List String) :=
  match tag.takeWhile (· != '=') with
  | '/' :: name =>
    let name := styleName name
    if name == "" then
      match styles with
      | [] => .error ⟨String.ofList tag⟩
      | _ :: outer => .ok outer
    else if styles.contains name then .ok (styles.erase name)
    else .error ⟨String.ofList tag⟩
  | _ => .ok (styleName tag :: styles)

/-- What is seen of some pieces inside open styles. -/
def seen (styles : List String) : List Piece → Except Fault (List Char)
  | [] => .ok []
  | .text cs :: rest => (seen styles rest).map (shown cs ++ ·)
  | .tag tag :: rest =>
    match afterTag styles tag with
    | .ok styles => seen styles rest
    | .error fault => .error fault

/-- The text that is seen of a marked-up text. -/
def plain (s : String) : Except Fault String := (seen [] (pieces s.toList)).map String.ofList

end BrowserScript.Screen.Markup
