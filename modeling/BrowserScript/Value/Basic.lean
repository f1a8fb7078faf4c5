/-
BrowserScript.Value.Basic — values of documents and results.

Configuration files, cookie texts, page functions and results all carry values of one kind: nothing,
truth values, whole numbers, numbers of 53 bits, texts, lists and entries in order. Configuration files
may also hold bytes, days, moments, pairs and sets.

* `Value` is that kind. Entries keep the order in which they were written.
* `Value.truthy` tells which values count as true.
* `Value.get?` looks a text key up.
* `Value.insert` replaces the entry of an equal key or adds one at the end.
* `Value.typeWord` is the word for the kind of a value in messages.
-/
import BrowserScript.Calendar

namespace BrowserScript

open Number

/-- A value. `enclosing` stands, in a list or in entries that hold themselves, at the place where the
whole would begin once more; it tells whether the whole is a list. -/
inductive Value where
  | null
  | bool (b : Bool)
  | int (n : Int)
  | float (x : Binary64)
  | text (s : String)
  | list (items : List Value)
  | dict (entries : List (Value × Value))
  | bytes (data : List UInt8)
  | date (day : Date)
  | moment (time : Moment)
  | pair (key val : Value)
  | set (members : List Value)
  | enclosing (isList : Bool)
  deriving Repr, Inhabited

namespace Value

/-- Entries with text keys. -/
def record (fields : List (String × Value)) : Value :=
  .dict (fields.map (fun field => (.text field.1, field.2)))

/-- A text or nothing. -/
def ofText? : Option String → Value
  | none => .null
  | some s => .text s

/-- Nothing, false, zero and whatever is empty do not count as true. -/
def truthy : Value → Bool
  | .null => false
  | .bool b => b
  | .int n => n != 0
  | .float x => !x.isZero
  | .text s => s != ""
  | .list items => !items.isEmpty
  | .dict entries => !entries.isEmpty
  | .bytes data => !data.isEmpty
  | .set members => !members.isEmpty
  | .date _ | .moment _ | .pair _ _ | .enclosing _ => true

/-- The word for the kind of a value. -/
def typeWord : Value → String
  | .null => "NoneType"
  | .bool _ => "bool"
  | .int _ => "int"
  | .float _ => "float"
  | .text _ => "str"
  | .list _ | .enclosing true => "list"
  | .dict _ | .enclosing false => "dict"
  | .bytes _ => "bytes"
  | .date _ => "datetime.date"
  | .moment _ => "datetime.datetime"
  | .pair _ _ => "tuple"
  | .set _ => "set"

/-- Truth values and whole numbers as whole numbers. -/
def whole? : Value → Option Int
  | .bool b => some (if b then 1 else 0)
  | .int n => some n
  | _ => none

/-- Whether a value can be the key of an entry. -/
def canBeKey : Value → Bool
  | .list _ | .dict _ | .set _ | .enclosing _ => false
  | .pair k v => k.canBeKey && v.canBeKey
  | _ => true

/-- Equality of keys: truth values count as zero and one, numbers are compared as numbers. Lists and
entries are never keys. -/
def sameKey : Value → Value → Bool
  | .null, .null => true
  | .text s, .text t => s == t
  | .bytes a, .bytes b => a == b
  | .date d, .date e => d == e
  | .moment m, .moment n => m.same n
  | x, y =>
    match x.whole?, y.whole? with
    | some m, some n => m == n
    | some m, none => match y with | .float g => g.isWhole m | _ => false
    | none, some n => match x with | .float f => f.isWhole n | _ => false
    | none, none => match x, y with | .float f, .float g => f.sameNumber g | _, _ => false

/-- The value of the first entry with an equal key. -/
def lookup (key : Value) : List (Value × Value) → Option Value
  | [] => none
  | (k, v) :: rest => if sameKey k key then some v else lookup key rest

/-- The value of a text key, when the value has entries and one has that key. -/
def get? (v : Value) (name : String) : Option Value :=
  match v with
  | .dict entries => lookup (.text name) entries
  | _ => none

/-- The entries with one replaced or added: an equal key keeps its place and takes the new value. -/
def insert (key val : Value) : List (Value × Value) → List (Value × Value)
  | [] => [(key, val)]
  | (k, v) :: rest => if sameKey k key then (k, val) :: rest else (k, v) :: insert key val rest

/-- Entries added one after the other. -/
def insertAll (entries : List (Value × Value)) (added : List (Value × Value)) :
    List (Value × Value) :=
  added.foldl (fun acc entry => insert entry.1 entry.2 acc) entries

end Value
end BrowserScript
