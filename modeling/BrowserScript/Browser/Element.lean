/-
BrowserScript.Browser.Element — what a script can see of an element.

* `boxCentre` is the middle of a box, the place of an element on the page. A browser says what it likes
  about a box, so each of its numbers may be missing or be something else.
* `Element` is an element as it was when it was looked up.
* `Element.shown` answers whether it can be seen, which the browser may also refuse to tell.
-/
import BrowserScript.Failure

namespace BrowserScript.Browser

open Number

/-! ## Boxes -/

/-- A number of pixels as a number of 53 bits, or a fault for the kind of any other value. -/
def pixels (fault : String → Fault) : Value → Except Fault Binary64
  | .float x => .ok x
  | v =>
    match v.whole? with
    | none => .error (fault v.typeWord)
    | some n =>
      match Binary64.ofInt? n with
      | some x => .ok x
      | none => .error .wholeTooLarge

/-- Half of a length. A whole length is halved exactly before it is rounded. -/
def halfOf : Value → Except Fault Binary64
  | .float x => .ok x.half
  | v =>
    match v.whole? with
    | none => .error (.noHalf v.typeWord)
    | some n =>
      match Binary64.quotient? n 2 with
      | some x => .ok x
      | none => .error .quotientTooLarge

/-- A number of a box that must be there. -/
def boxEntry (box : Value) (name : String) : Except Fault Value :=
  match box with
  | .dict entries =>
    match Value.lookup (.text name) entries with
    | some v => .ok v
    | none => .error (.missingEntry name)
  | v => .error (.noEntries v.typeWord)

/-- The middle of a length in a box: its start and half of its extent. -/
def middleOf (box : Value) (start extent : String) : Except Fault Binary64 := do
  let first ← boxEntry box start
  let half ← halfOf (← boxEntry box extent)
  return (← pixels .noSum first).add half

/-- The middle of a box. -/
def boxCentre (box : Value) : Except Fault (Binary64 × Binary64) := do
  return (← middleOf box "x" "width", ← middleOf box "y" "height")

/-- The box of an element that says nothing else. -/
def usualBox : Value :=
  .record [("x", .int 0), ("y", .int 0), ("width", .int 100), ("height", .int 20)]

/-! ## Elements -/

/-- An element as it is at one moment. -/
structure Element where
  visible : Value := .bool true
  text : Option String := some ""
  attributes : List (String × String) := []
  html : String := ""
  box : Value := usualBox
  options : List (Value × Value) := []
  visibilityFailure : Option Failure := none
  deriving Repr

namespace Element

/-- Whether the element can be seen. -/
def shown (e : Element) : Except Failure Bool :=
  match e.visibilityFailure with
  | some failure => .error failure
  | none => .ok e.visible.truthy

/-- The text of an attribute. -/
def attribute? (e : Element) (name : String) : Option String :=
  (e.attributes.find? (·.1 == name)).map (·.2)

end Element
end BrowserScript.Browser
