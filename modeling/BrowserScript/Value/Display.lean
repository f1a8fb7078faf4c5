/-
BrowserScript.Value.Display — the two texts of a value.

* `Value.quoted` shows a value inside a message: texts between quotes, `None`, `True` and `False`,
  lists between brackets, entries between braces.
* `Value.plain` is a text itself, the usual form of a day or moment, and the quoted form of every other
  value.
* `Value.isWritable` tells whether the whole numbers in a value are short enough to be written.
-/
import BrowserScript.Value.Basic
import BrowserScript.Number.Reading
import BrowserScript.Text.Quoted
import BrowserScript.Text.Search

namespace BrowserScript.Value

mutual

/-- A value as messages show it. -/
def quoted : Value → String
  | .null => "None"
  | .bool b => if b then "True" else "False"
  | .int n => Number.intText n
  | .float x => x.text
  | .text s => Text.quoted s
  | .list items => "[" ++ Text.joined ", " (quotedItems items) ++ "]"
  | .dict entries => "\x7b" ++ Text.joined ", " (quotedEntries entries) ++ "\x7d"
  | .bytes data => Text.quotedBytes data
  | .date d => d.quoted
  | .moment m => m.quoted
  | .pair k v => "(" ++ quoted k ++ ", " ++ quoted v ++ ")"
  | .set [] => "set()"
  | .set (v :: rest) => "\x7b" ++ Text.joined ", " (quoted v :: quotedItems rest) ++ "\x7d"
  | .enclosing isList => if isList then "[...]" else "\x7b...\x7d"

/-- The items of a list as messages show them. -/
def quotedItems : List Value → List String
  | [] => []
  | v :: rest => quoted v :: quotedItems rest

/-- Entries as messages show them. -/
def quotedEntries : List (Value × Value) → List String
  | [] => []
  | (k, v) :: rest => (quoted k ++ ": " ++ quoted v) :: quotedEntries rest

end

/-- A value as text: a text stands for itself. -/
def plain : Value → String
  | .text s => s
  | .date d => d.text
  | .moment m => m.text
  | v => v.quoted

mutual

/-- Whether no whole number in a value has too many digits to be written. -/
def isWritable : Value → Bool
  | .int n => n.natAbs < Nat.pow 10 Number.digitLimit
  | .list items | .set items => writableItems items
  | .dict entries => writableEntries entries
  | .pair k v => isWritable k && isWritable v
  | _ => true

/-- Whether all items of a list can be written. -/
def writableItems : List Value → Bool
  | [] => true
  | v :: rest => isWritable v && writableItems rest

/-- Whether all keys and values of entries can be written. -/
def writableEntries : List (Value × Value) → Bool
  | [] => true
  | (k, v) :: rest => isWritable k && isWritable v && writableEntries rest

end

end BrowserScript.Value
