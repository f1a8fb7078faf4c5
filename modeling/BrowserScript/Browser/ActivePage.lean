/-
BrowserScript.Browser.ActivePage — the page that the next instruction acts on.

New pages are announced at any time, but they only wait in a queue until the runner synchronises.

* `ActivePage.notify` queues an announced page.
* `ActivePage.sync` applies the queue and then takes the newest open page of the context.
-/
import BrowserScript.Browser.World

namespace BrowserScript.Browser

/-- The current page, the announced pages that wait, and whether the cell listens to the context. -/
structure ActivePage where
  current : String
  pending : List String
  attached : Bool
  deriving Repr, DecidableEq

namespace ActivePage

/-- A cell on a page. -/
def on (page : String) (attached : Bool) : ActivePage := ⟨page, [], attached⟩

/-- A page is announced. -/
def notify (a : ActivePage) (page : String) : ActivePage := { a with pending := a.pending ++ [page] }

/-- Pages are announced by the context; only a cell that listens hears of them. -/
def hear (a : ActivePage) (pages : List String) : ActivePage :=
  if a.attached then pages.foldl notify a else a

/-- The last of some announced pages that is open, or the page `current`. -/
def lastOpen (w : World) (current : String) : List String → String
  | [] => current
  | page :: rest => lastOpen w (if (w.page page).closed then current else page) rest

/-- Applies the announced pages and then takes the newest open page of the context. -/
def sync (a : ActivePage) (w : World) : ActivePage :=
  let current := lastOpen w a.current a.pending
  let current := if a.attached then (w.openPages.getLast?).getD current else current
  { a with current := current, pending := [] }

end ActivePage
end BrowserScript.Browser
