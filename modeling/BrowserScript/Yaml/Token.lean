/-
BrowserScript.Yaml.Token — the tokens of a YAML 1.1 document.

* `Token` is a mark or a scalar of a document.
* `YamlFault` tells why a text is no document; some values that are written like a known kind but
  cannot be built have a kind of their own.
* `Place` is a place in a text: what is left, how many characters were read, and the line and column.
-/
import BrowserScript.Value.Basic

namespace BrowserScript.Yaml

/-- The tag of a node as written: with the handle of a tag directive, or complete. -/
structure TagName where
  handle : Option String
  suffix : String
  deriving Repr, DecidableEq

/-- A token. -/
inductive Token where
  | yamlDirective (major minor : Nat)
  | tagDirective (handle start : String)
  | otherDirective
  | documentStart
  | documentEnd
  | streamEnd
  | blockSequenceStart
  | blockMappingStart
  | blockEnd
  | flowSequenceStart
  | flowMappingStart
  | flowSequenceEnd
  | flowMappingEnd
  | blockEntry
  | flowEntry
  | key
  | value
  | alias (name : String)
  | anchor (name : String)
  | tag (name : TagName)
  | scalar (text : String) (plain : Bool)
  deriving Repr, DecidableEq

/-- Why a text is no document: it breaks the rules of the language, or a value in it cannot be
built. -/
inductive YamlFault where
  | invalid (reason : String)
  | unbuildable (kind reason : String)
  deriving Repr, DecidableEq

/-! ## Characters -/

/-- A character that ends a line. -/
def isBreak (c : Char) : Bool :=
  c == '\n' || c == '\r' || c == '\u0085' || c == '\u2028' || c == '\u2029'

/-- A line end, or the end of the text. -/
def isBreakOrEnd : Option Char → Bool
  | none => true
  | some c => isBreak c

/-- A blank, a line end, or the end of the text. -/
def isSpaceOrEnd : Option Char → Bool
  | none => true
  | some c => c == ' ' || isBreak c

/-- A blank, a tab, a line end, or the end of the text. -/
def isGapOrEnd : Option Char → Bool
  | none => true
  | some c => c == ' ' || c == '\t' || isBreak c

/-- A character that documents may contain. -/
def isAllowed (c : Char) : Bool :=
  let n := c.toNat
  n == 0x9 || n == 0xa || n == 0xd || (0x20 ≤ n && n ≤ 0x7e) || n == 0x85 ||
    (0xa0 ≤ n && n ≤ 0xd7ff) || (0xe000 ≤ n && n ≤ 0xfffd) || 0x10000 ≤ n

/-- A character of a name: letters, digits, hyphen and low line. -/
def isNameChar (c : Char) : Bool := c.isAlphanum || c == '-' || c == '_'

/-- A character of a tag. -/
def isUriChar (c : Char) : Bool := c.isAlphanum || "-;/?:@&=+$,_.!~*'()[]%".toList.contains c

/-! ## Places -/

/-- A place in a text. -/
structure Place where
  rest : List Char
  index : Nat
  line : Nat
  column : Nat
  deriving Repr

namespace Place

/-- The beginning of a text. -/
def start (cs : List Char) : Place := ⟨cs, 0, 0, 0⟩

/-- The character some places further on. -/
def peek (p : Place) (n : Nat) : Option Char := p.rest[n]?

/-- The place after one more character. A carriage return before a line feed does not end the
line. -/
def step (p : Place) : Place :=
  match p.rest with
  | [] => p
  | c :: rest =>
    if isBreak c && !(c == '\r' && rest.head? == some '\n') then
      ⟨rest, p.index + 1, p.line + 1, 0⟩
    else ⟨rest, p.index + 1, p.line, if c == '\ufeff' then p.column else p.column + 1⟩

/-- The place after `n` more characters. -/
def skip : Nat → Place → Place
  | 0, p => p
  | n + 1, p => skip n p.step

/-- The place after all characters of a class, and those characters. -/
def takeWhile (f : Char → Bool) (p : Place) : List Char × Place :=
  let cs := p.rest.takeWhile f
  (cs, p.skip cs.length)

/-- The place after all characters of a class. -/
def skipWhile (f : Char → Bool) (p : Place) : Place := (p.takeWhile f).2

/-- The line end at a place as it counts in a scalar, and the place after it. -/
def lineBreak (p : Place) : List Char × Place :=
  match p.rest with
  | '\r' :: '\n' :: _ => (['\n'], p.skip 2)
  | c :: _ =>
    if c == '\n' || c == '\r' || c == '\u0085' then (['\n'], p.step)
    else if isBreak c then ([c], p.step)
    else ([], p)
  | [] => ([], p)

/-- Whether a document marker of three characters stands at a place. -/
def atMarker (p : Place) (mark : Char) : Bool :=
  p.peek 0 == some mark && p.peek 1 == some mark && p.peek 2 == some mark && isGapOrEnd (p.peek 3)

end Place
end BrowserScript.Yaml
