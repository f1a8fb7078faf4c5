/-
BrowserScript.Browser.Machine — running scripts.

* `Machine` is everything around a script: the disk, the configuration, the browser and the active
  page.
* `Machine.answer` answers a question of a script that runs on a page.
* `Script.run` runs a script.
-/
import BrowserScript.Browser.ActivePage
import BrowserScript.Browser.Script
import BrowserScript.Settings.Secret

namespace BrowserScript.Browser

/-- Everything around a script. -/
structure Machine where
  disk : File.Disk
  config : Config
  world : World
  tab : ActivePage

namespace Machine

/-- The clock stands at this time, in milliseconds. -/
def now : Int := 1700000000000

/-- The machine after its browser has changed and announced pages. -/
def moved (m : Machine) (w : World) (announced : List String) : Machine :=
  { m with world := w, tab := m.tab.hear announced }

/-- Asks a page. -/
def askPage (m : Machine) (page : String) (c : Call) : Except Failure c.Reply × Machine :=
  let (reply, w, announced) := m.world.ask page c
  (reply, m.moved w announced)

/-- Asks the browser around the pages. -/
def askContext (m : Machine) (c : ContextCall) : Except Failure Unit × Machine :=
  let (reply, w, announced) := m.world.askContext c
  (reply, m.moved w announced)

/-- Answers a question of a script that runs on a page. -/
def answer (m : Machine) (page : String) : (q : Question) → Except Failure q.Reply × Machine
  | .page call => m.askPage page call
  | .url => (.ok (m.world.page page).url, m)
  | .cookies =>
    match m.askContext .cookies with
    | (.ok (), m) => (.ok m.world.cookies, m)
    | (.error e, m) => (.error e, m)
  | .addCookies added => m.askContext (.addCookies added)
  | .secret parameter =>
    (resolveSecret m.disk (some m.config.projectDir) m.config.secrets parameter, m)
  | .isFile path => ((m.disk.isFile path).mapError (fun f => .ordinary (.os f)), m)
  | .makeDirs path =>
    match m.disk.makeDirs path with
    | .ok disk => (.ok (), { m with disk := disk })
    | .error f => (.error (.ordinary (.os f)), m)
  | .expandHome path =>
    match path.expandHome m.disk.home with
    | some path => (.ok path, m)
    | none => (.error (.ordinary .unknownHome), m)
  | .clock => (.ok now, m)

end Machine

/-- Runs a script on a page. -/
def Script.run {α : Type} (m : Machine) (page : String) : Script α → Except Failure α × Machine
  | .done a => (.ok a, m)
  | .fail e => (.error e, m)
  | .ask q next => let (reply, m) := m.answer page q; run m page (next reply)

end BrowserScript.Browser
