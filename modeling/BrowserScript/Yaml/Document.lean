/-
BrowserScript.Yaml.Document — documents and their values.

A document may hold a list or entries that hold themselves, so its values are seen from a place: the
value at a place shows everything in it, and marks where the whole would begin once more.

* `Document.read` reads a text; an empty text is nothing.
* `Document.valueAt` is the value at a place, `Document.value` that of the outermost one.
* `Document.entriesAt` are the entries at a place: their keys, and the places of their values.
* `Document.outline` is the value at a place without what lies deeper.
* `Document.opened` is the value at a place with each of its entries seen from its own place.
-/
import BrowserScript.Value.SetOrder
import BrowserScript.Yaml.Native

namespace BrowserScript.Yaml

/-- A document: what its places hold, and the outermost place. -/
structure Document where
  natives : Array (Option Native)
  outermost : Option Nat
  deriving Repr, Inhabited

namespace Document

/-- A document as it is written in a text. -/
def read (text : String) : Except YamlFault Document := do
  match ← readNodes text with
  | (none, _) => .ok ⟨#[], none⟩
  | (some n, nodes) => .ok ⟨← build nodes n, some n⟩

/-- What a place holds. -/
def native? (d : Document) (n : Nat) : Option Native := d.natives[n]?.join

/-- The value at a place, which lies in the places `around`; the first argument bounds the depth. -/
def valueIn (d : Document) : Nat → List Nat → Nat → Value
  | 0, _, _ => .null
  | fuel + 1, around, n =>
    let inner := d.valueIn fuel (n :: around)
    match d.native? n with
    | none => .null
    | some (.leaf v) => v.value
    | some .nan => .float .nan
    | some (.set members) => .setOf (members.map inner)
    | some (.list items) =>
      if around.contains n then .enclosing true else .list (items.map inner)
    | some (.pairs items) =>
      if around.contains n then .enclosing true
      else .list (items.map (fun e => .pair (inner e.1) (inner e.2)))
    | some (.dict entries) =>
      if around.contains n then .enclosing false
      else .dict (entries.map (fun e => (inner e.1, inner e.2)))

/-- The value at a place. -/
def valueAt (d : Document) (n : Nat) : Value := d.valueIn (d.natives.size + 1) [] n

/-- The value of a document. -/
def value (d : Document) : Value := (d.outermost.map d.valueAt).getD .null

/-- The entries at a place: their keys, and the places of their values. -/
def entriesAt (d : Document) (n : Nat) : Option (List (Value × Nat)) :=
  match d.native? n with
  | some (.dict entries) => some (entries.map (fun e => (d.valueAt e.1, e.2)))
  | _ => none

/-- The value at a place, with nothing in the place of every value in it. It is of the same kind, and
counts as true when the value itself does. -/
def outline (d : Document) (n : Nat) : Value :=
  match d.native? n with
  | some (.list items) => .list (items.map (fun _ => .null))
  | some (.pairs items) => .list (items.map (fun _ => .null))
  | some (.dict entries) => .dict (entries.map (fun _ => (.null, .null)))
  | some (.set members) => .set (members.map (fun _ => .null))
  | _ => d.valueAt n

/-- The value at a place; if it has entries, each is seen from its own place. -/
def opened (d : Document) (n : Nat) : Value :=
  match d.entriesAt n with
  | some entries => .dict (entries.map (fun e => (e.1, d.valueAt e.2)))
  | none => d.outline n

/-- Whether a document says nothing: its value does not count as true. -/
def isEmpty (d : Document) : Bool :=
  match d.outermost.bind d.native? with
  | some (.leaf v) => !v.value.truthy
  | some .nan => false
  | some (.list items) => items.isEmpty
  | some (.pairs items) => items.isEmpty
  | some (.dict entries) => entries.isEmpty
  | some (.set members) => members.isEmpty
  | none => true

end Document
end BrowserScript.Yaml
