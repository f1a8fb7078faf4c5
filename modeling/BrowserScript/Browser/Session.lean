/-
BrowserScript.Browser.Session — the life of a browser.

Starting acquires the driver, the browser, its context and a first page, one after the other. Stopping
releases what was acquired, the context first and the driver last; a refusal to let go does not matter.

* `Session` tells what is held.
* `start`, `stop` and `enter` change it; entering stops again when starting fails.
-/
import BrowserScript.Browser.Machine

namespace BrowserScript.Browser

/-- What a session holds. -/
structure Session where
  driver : Bool := false
  browser : Bool := false
  context : Bool := false
  page : Option String := none
  deriving Repr, DecidableEq

namespace Session

/-- The failure of asking for a page or context too early. -/
def notStarted : Failure := .driver "Browser session not started"

/-- Whether there is a context. -/
def context? (s : Session) : Except Failure Unit :=
  if s.context then .ok () else .error notStarted

/-- The first page. -/
def page? (s : Session) : Except Failure String :=
  match s.page with
  | some page => .ok page
  | none => .error notStarted

/-- A step of a session: its outcome, what is then held, and the machine. -/
abbrev Step := Except Failure Unit × Session × Machine

/-- One request; what is held changes only if it is answered. -/
def step (s : Session) (m : Machine) (c : ContextCall) (held : Session → Session) : Step :=
  match m.askContext c with
  | (.ok (), m) => (.ok (), held s, m)
  | (.error e, m) => (.error e, s, m)

/-- One step after another, as long as none fails. -/
def andThen (x : Step) (next : Session → Machine → Step) : Step :=
  match x with
  | (.ok (), s, m) => next s m
  | (.error e, s, m) => (.error e, s, m)

/-- Launches the browser and opens the first page. -/
def start (s : Session) (m : Machine) : Step :=
  let settings := m.config.toSettings
  andThen (s.step m .startDriver (fun s => { s with driver := true })) fun s m =>
  andThen (s.step m (.launch settings.browser settings.headless)
    (fun s => { s with browser := true })) fun s m =>
  andThen (s.step m (.newContext settings.viewport.1 settings.viewport.2)
    (fun s => { s with context := true })) fun s m =>
  andThen (s.step m (.setNavigationTimeout settings.navigationTimeout) id) fun s m =>
  andThen (s.step m (.setTimeout settings.actionTimeout) id) fun s m =>
  s.step m .newPage (fun s => { s with page := some m.world.firstPage })

/-- Releases one thing if it is held. -/
def release (held : Bool) (c : ContextCall) (m : Machine) : Machine :=
  if held then (m.askContext c).2 else m

/-- Releases everything that is held. -/
def stop (s : Session) (m : Machine) : Session × Machine :=
  let m := release s.context .closeContext m
  let m := release s.browser .closeBrowser m
  let m := release s.driver .stopDriver m
  ({}, m)

/-- Starts, and stops again when that fails. -/
def enter (s : Session) (m : Machine) : Step :=
  match s.start m with
  | (.ok (), s, m) => (.ok (), s, m)
  | (.error e, s, m) => let (s, m) := s.stop m; (.error e, s, m)

/-- Runs a body between entering and stopping; what fails is the entering or the body. -/
def during {α : Type} (m : Machine) (body : String → Machine → Except Failure α × Machine) :
    Except Failure α × Session × Machine :=
  match ({} : Session).enter m with
  | (.error e, s, m) => (.error e, s, m)
  | (.ok (), s, m) =>
    match s.page? with
    | .error e => let (s, m) := s.stop m; (.error e, s, m)
    | .ok page =>
      let (result, m) := body page m
      let (s, m) := s.stop m
      (result, s, m)

end Session
end BrowserScript.Browser
