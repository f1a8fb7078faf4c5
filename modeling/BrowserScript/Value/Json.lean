/-
BrowserScript.Value.Json — values written as JSON.

* `Json.escaped` writes a text with ASCII characters only: other characters become escapes of four
  hexadecimal digits, in surrogate pairs where one is not enough.
* `Value.json` writes a value on one line, with a blank after commas and colons.
* `Value.jsonIndented` writes each item on a line of its own, indented by two blanks a level.
* `Value.checkJson` tells whether a value can be written: numbers can be too long, keys of the wrong kind,
  and what holds itself has no end.
-/
import BrowserScript.Value.Display

namespace BrowserScript

namespace Json

/-- A code unit of sixteen bits as an escape. -/
def unitEscape (n : Nat) : List Char := '\\' :: 'u' :: Text.hexDigits 4 n

/-- One character of a JSON text. -/
def escapedChar (c : Char) : List Char :=
  if c == '"' || c == '\\' then ['\\', c]
  else if c == '\n' then ['\\', 'n']
  else if c == '\r' then ['\\', 'r']
  else if c == '\t' then ['\\', 't']
  else if c == '\x08' then ['\\', 'b']
  else if c == '\x0c' then ['\\', 'f']
  else if 0x20 ≤ c.toNat && c.toNat < 0x7f then [c]
  else if let some n := Text.half? c then unitEscape n
  else if c.toNat < 0x10000 then unitEscape c.toNat
  else
    let n := c.toNat - 0x10000
    unitEscape (0xd800 + n / 0x400) ++ unitEscape (0xdc00 + n % 0x400)

/-- A text between double quotes. -/
def escaped (s : String) : String :=
  String.ofList ('"' :: (s.toList.flatMap escapedChar ++ ['"']))

/-- The JSON text of a number. -/
def numberText : Number.Binary64 → String
  | .nan => "NaN"
  | .infinite s => if s then "-Infinity" else "Infinity"
  | x => x.text

/-- The text of a key that is no text. -/
def keyText : Value → String
  | .text s => s
  | .null => "null"
  | .bool b => if b then "true" else "false"
  | .float x => numberText x
  | v => v.plain

end Json

namespace Value

open Json

mutual

/-- A value as JSON on one line. A value without a JSON form is written as its plain text. -/
def json : Value → String
  | .null => "null"
  | .bool b => if b then "true" else "false"
  | .int n => Number.intText n
  | .float x => numberText x
  | .text s => escaped s
  | .list items => "[" ++ Text.joined ", " (jsonItems items) ++ "]"
  | .dict entries => "\x7b" ++ Text.joined ", " (jsonEntries entries) ++ "\x7d"
  | .pair k v => "[" ++ json k ++ ", " ++ json v ++ "]"
  | v => escaped v.plain

/-- The items of a list as JSON. -/
def jsonItems : List Value → List String
  | [] => []
  | v :: rest => json v :: jsonItems rest

/-- Entries as JSON. -/
def jsonEntries : List (Value × Value) → List String
  | [] => []
  | (k, v) :: rest => (escaped (keyText k) ++ ": " ++ json v) :: jsonEntries rest

end

/-- A line break and the blanks of a level. -/
def indent (level : Nat) : String := "\n" ++ String.ofList (List.replicate (2 * level) ' ')

mutual

/-- A value as JSON at a level of indentation. -/
def jsonAt (level : Nat) : Value → String
  | .list [] => "[]"
  | .list (v :: rest) =>
    "[" ++ indent (level + 1) ++
      Text.joined ("," ++ indent (level + 1)) (jsonAt (level + 1) v :: jsonItemsAt (level + 1) rest) ++
      indent level ++ "]"
  | .dict [] => "\x7b\x7d"
  | .dict ((k, v) :: rest) =>
    "\x7b" ++ indent (level + 1) ++
      Text.joined ("," ++ indent (level + 1))
        ((escaped (keyText k) ++ ": " ++ jsonAt (level + 1) v) :: jsonEntriesAt (level + 1) rest) ++
      indent level ++ "\x7d"
  | v => v.json

/-- The items of a list at a level. -/
def jsonItemsAt (level : Nat) : List Value → List String
  | [] => []
  | v :: rest => jsonAt level v :: jsonItemsAt level rest

/-- Entries at a level. -/
def jsonEntriesAt (level : Nat) : List (Value × Value) → List String
  | [] => []
  | (k, v) :: rest =>
    (escaped (keyText k) ++ ": " ++ jsonAt level v) :: jsonEntriesAt level rest

end

/-- A value as JSON over several lines. -/
def jsonIndented (v : Value) : String := jsonAt 0 v

/-! ## What cannot be written -/

/-- Why a value cannot be written as JSON. -/
inductive JsonFault where
  | longNumber
  | circle
  | badKey (kind : String)
  deriving Repr, DecidableEq

/-- A part that is written as its plain text or as a number. -/
def checkPlain (v : Value) : Except JsonFault Unit := if v.isWritable then .ok () else .error .longNumber

/-- A key. -/
def checkKey : Value → Except JsonFault Unit
  | .text _ | .null | .bool _ | .float _ => .ok ()
  | .int n => checkPlain (.int n)
  | .date _ => .error (.badKey "date")
  | .moment _ => .error (.badKey "datetime")
  | v => .error (.badKey v.typeWord)

mutual

/-- Whether a value can be written as JSON; the first part that cannot be written counts. -/
def checkJson : Value → Except JsonFault Unit
  | .list items => checkItems items
  | .dict entries => checkEntries entries
  | .pair k v => do
    checkJson k
    checkJson v
  | .enclosing _ => .error .circle
  | v => checkPlain v

/-- The items of a list. -/
def checkItems : List Value → Except JsonFault Unit
  | [] => .ok ()
  | v :: rest => do
    checkJson v
    checkItems rest

/-- Entries. -/
def checkEntries : List (Value × Value) → Except JsonFault Unit
  | [] => .ok ()
  | (k, v) :: rest => do
    checkKey k
    checkJson v
    checkEntries rest

end

end Value
end BrowserScript
