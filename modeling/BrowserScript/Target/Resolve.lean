/-
BrowserScript.Target.Resolve — the first selector that finds a visible element.

Selectors are tried in order. A selector that finds nothing, or that the browser refuses, is passed
over; so is one whose element cannot be seen or is not accepted, but these are remembered.

* `Resolution` is the outcome of trying a list.
* `resolve` tries a list of selectors.
* `resolveTarget` tries the candidates of a description and fails when none is left.
-/
import BrowserScript.Browser.Script
import BrowserScript.Target.Candidates

namespace BrowserScript.Target

open Browser

/-- The outcome of trying selectors: the one that was taken, how many were tried, those whose elements
could not be seen and those whose elements were not accepted. -/
structure Resolution where
  selector : Option String
  tried : Nat
  hidden : List String
  rejected : List String
  deriving Repr, DecidableEq

namespace Resolution

/-- Nothing tried yet. -/
def start : Resolution := ⟨none, 0, [], []⟩

/-- One more selector tried. -/
def next (r : Resolution) : Resolution := { r with tried := r.tried + 1 }

/-- Whether a selector was taken. -/
def found (r : Resolution) : Bool := r.selector.isSome

end Resolution

/-- The element of a selector, if there is one in time. -/
def probe (timeout : Int) (selector : String) : Script (Option Element) :=
  (some <$> Script.page (.probe selector timeout)).onRefusal (fun _ => pure none)

/-- Whether an element can be seen; an element that vanishes cannot. -/
def isShown (e : Element) : Script Bool :=
  (Script.ofExcept e.shown).onRefusal (fun _ => pure false)

/-- Tries selectors one after the other. -/
def resolveFrom (timeout : Int) (accept : Element → Bool) (r : Resolution) :
    List String → Script Resolution
  | [] => pure r
  | selector :: rest => do
    let r := r.next
    match ← probe timeout selector with
    | none => resolveFrom timeout accept r rest
    | some e =>
      if !(← isShown e) then
        resolveFrom timeout accept { r with hidden := r.hidden ++ [selector] } rest
      else if !accept e then
        resolveFrom timeout accept { r with rejected := r.rejected ++ [selector] } rest
      else pure { r with selector := some selector }

/-- Tries selectors in order; every element is accepted unless `accept` says otherwise. -/
def resolve (timeout : Int) (selectors : List String) (accept : Element → Bool := fun _ => true) :
    Script Resolution :=
  resolveFrom timeout accept .start selectors

/-- The selector for a description. -/
def resolveTarget (timeout : Int) (description : String) (groups : Option (List String) := none) :
    Script String := do
  let r ← resolve timeout (candidates description groups)
  match r.selector with
  | some selector => pure selector
  | none => .fail (.targetNotFound description r.tried r.hidden)

end BrowserScript.Target
