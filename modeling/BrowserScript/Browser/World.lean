/-
BrowserScript.Browser.World — a browser described by what its pages do.

The description says what every page holds, where its addresses lead, what a click changes and which
requests fail. It answers requests and keeps a log of them.

* `Page.answer` is what a page answers to a request, `World.after` what the request changes.
* `World.ask` logs a request to a page, lets a planned failure happen, answers and applies the
  changes; `World.askContext` does the same for the browser around the pages.
* `World.apply` applies an effect. New pages are announced to whoever listens.
-/
import BrowserScript.Browser.Call

namespace BrowserScript.Browser

/-- Something that happens in a browser, on the page where it happens or on another one. -/
inductive Effect where
  | visit (page : Option String) (url : String)
  | setElements (page : Option String) (changes : List (String × Option Element))
  | openPage (page : Option String) (announced : Bool)
  | close (page : Option String)
  | drop (page : Option String)
  | planFailures (page : Option String) (plan : List (String × Failure))
  deriving Repr

/-- The page of an effect that names one. -/
def Effect.page? : Effect → Option String
  | .visit page _ | .setElements page _ | .openPage page _ | .close page | .drop page
  | .planFailures page _ => page

/-- Where an address leads: what replaces the contents of the page, the address at which the visit
ends, and the status of the answer. -/
structure Route where
  elements : Option (List (String × Element)) := none
  forms : Option Value := none
  signals : Option Value := none
  find : Option Value := none
  inspect : Option Value := none
  landsOn : Option String := none
  status : Value := .int 200
  deriving Repr

/-- A page. -/
structure Page where
  name : String
  url : String := "about:blank"
  closed : Bool := false
  elements : List (String × Element) := []
  forms : Value := .null
  signals : Value := .null
  find : Value := .null
  inspect : Value := .null
  scripts : List (String × Value) := []
  onClick : List (String × List Effect) := []
  routes : List (String × Route) := []
  plan : List (String × Failure) := []
  deriving Repr

/-- The second part of the first pair with a key. -/
def lookupText {α : Type} (key : String) : List (String × α) → Option α
  | [] => none
  | (k, v) :: rest => if k == key then some v else lookupText key rest

/-- A pair replaced or added at the end. -/
def insertText {α : Type} (key : String) (val : α) : List (String × α) → List (String × α)
  | [] => [(key, val)]
  | (k, v) :: rest => if k == key then (k, val) :: rest else (k, v) :: insertText key val rest

/-- The first planned failure among some keys. -/
def planned (plan : List (String × Failure)) (keys : List String) : Option Failure :=
  keys.findSome? (fun key => lookupText key plan)

namespace Page

/-- The element of a selector. -/
def element? (p : Page) (selector : String) : Option Element := lookupText selector p.elements

/-- The wording of a request that ran out of time. -/
def exceeded (timeout : Int) : Failure :=
  .timeout ("Timeout " ++ Number.intText timeout ++ "ms exceeded.")

/-- The wording of a request for an element that is not there. -/
def notThere (selector : String) : Failure := .timeout ("Timeout waiting for " ++ selector)

/-- An element that a request needs. -/
def need {α : Type} (p : Page) (selector : String) (use : Element → α) : Except Failure α :=
  match p.element? selector with
  | some e => .ok (use e)
  | none => .error (notThere selector)

/-- Whether a value is a text. -/
def isText (wanted : String) : Value → Bool
  | .text s => s == wanted
  | _ => false

/-- Which part of an option equals a text; values come before labels. -/
def optionPart (options : List (Value × Value)) (wanted : String) : Option OptionPart :=
  if options.any (fun o => isText wanted o.1) then some .value
  else if options.any (fun o => isText wanted o.2) then some .label
  else none

/-- What a page answers to a choice: the value when there is one, or else the label. -/
def chosen (part : OptionPart) (option : String) : Value :=
  match part with
  | .value => if option == "" then .null else .text option
  | .label => .text option

/-- What a script finds. A page function answers as when it is asked by name. -/
def evaluated (p : Page) (script : String) : Value :=
  match Call.evaluated? script with
  | some .authForm => p.forms
  | some .pageSignals => p.signals
  | some .find => p.find
  | some .inspect => p.inspect
  | _ => (lookupText script p.scripts).getD .null

/-- What the page answers. -/
def answer (p : Page) : (c : Call) → Except Failure c.Reply
  | .probe selector timeout =>
    match p.element? selector with
    | some e => .ok e
    | none => .error (exceeded timeout)
  | .waitVisible selector timeout =>
    match p.element? selector with
    | some e => if e.visible.truthy then .ok () else .error (exceeded timeout)
    | none => .error (exceeded timeout)
  | .query selector => .ok (p.element? selector)
  | .click selector | .fill selector _ | .press selector _ | .check selector | .uncheck selector
  | .hover selector | .focus selector | .attachFile selector _ | .scrollIntoView selector =>
    p.need selector (fun _ => ())
  | .clickFound (.text selector) => p.need selector (fun _ => ())
  | .clickFound selector =>
    if selector.canBeKey then .error (notThere selector.plain)
    else .error (.ordinary (.unhashable selector.typeWord))
  | .textContent selector => p.need selector (·.text)
  | .selectOption selector part option => p.need selector (fun _ => [chosen part option])
  | .outerHtml selector => p.need selector (·.html)
  | .matchOption selector wanted => p.need selector (fun e => optionPart e.options wanted)
  | .forms => .ok p.forms
  | .signals => .ok p.signals
  | .find .. => .ok p.find
  | .inspect _ => .ok p.inspect
  | .evaluate script => .ok (p.evaluated script)
  | .goto url _ =>
    .ok (match lookupText url p.routes with
      | some route => route.status
      | none => .int 200)
  | .waitForUrlChange before timeout =>
    if p.url != before then .ok () else .error (exceeded timeout)
  | .waitForLoad .. | .pause _ | .screenshot .. | .keyPress _ | .mouseMove .. | .mouseDown
  | .mouseUp => .ok ()

/-- The page after its address has changed. -/
def visit (p : Page) (url : String) : Page :=
  match lookupText url p.routes with
  | none => { p with url := url }
  | some r =>
    { p with
      url := r.landsOn.getD url
      elements := r.elements.getD p.elements
      forms := r.forms.getD p.forms
      signals := r.signals.getD p.signals
      find := r.find.getD p.find
      inspect := r.inspect.getD p.inspect }

/-- One element set or removed. -/
def setElement (p : Page) (change : String × Option Element) : Page :=
  match change.2 with
  | some e => { p with elements := insertText change.1 e p.elements }
  | none => { p with elements := p.elements.filter (·.1 != change.1) }

end Page

/-- A browser: its pages, the names of those that its context holds, its cookies, the planned failures
of requests to it, what the first sleep brings, and the log. -/
structure World where
  pages : List Page
  context : List String
  cookies : List Value := []
  plan : List (String × Failure) := []
  onSleep : List Effect := []
  tracesProbes : Bool := false
  log : List Entry := []
  deriving Repr

namespace World

/-- The page of a name; a page that nobody described is blank. -/
def page (w : World) (name : String) : Page :=
  (w.pages.find? (·.name == name)).getD { name := name }

/-- The name of the first page. -/
def firstPage (w : World) : String := (w.pages.head?.map (·.name)).getD ""

/-- A page changed. -/
def update (w : World) (name : String) (f : Page → Page) : World :=
  { w with pages := w.pages.map (fun p => if p.name == name then f p else p) }

/-- The pages of the context that are open. -/
def openPages (w : World) : List String := w.context.filter (fun name => !(w.page name).closed)

/-- Applies an effect that happens on the page `here`; the second part names the pages announced. -/
def apply (w : World) (here : String) (e : Effect) : World × List String :=
  let target := e.page?.getD here
  match e with
  | .visit _ url => (w.update target (·.visit url), [])
  | .setElements _ changes => (w.update target (fun p => changes.foldl Page.setElement p), [])
  | .openPage _ announced =>
    let w := w.update target (fun p => { p with closed := false })
    let w := if w.context.contains target then w else { w with context := w.context ++ [target] }
    (w, if announced then [target] else [])
  | .close _ => (w.update target (fun p => { p with closed := true }), [])
  | .drop _ => ({ w with context := w.context.filter (· != target) }, [])
  | .planFailures _ plan =>
    (w.update target (fun p =>
      { p with plan := plan.foldl (fun acc x => insertText x.1 x.2 acc) p.plan }), [])

/-- Applies effects one after the other. -/
def applyAll (w : World) (here : String) : List Effect → World × List String
  | [] => (w, [])
  | e :: rest =>
    let (w, announced) := w.apply here e
    let (w, more) := applyAll w here rest
    (w, announced ++ more)

/-- What an answered request changes. -/
def after (w : World) (name : String) : Call → World × List String
  | .click selector | .clickFound (.text selector) =>
    w.applyAll name ((lookupText selector (w.page name).onClick).getD [])
  | .goto url _ => (w.update name (·.visit url), [])
  | _ => (w, [])

/-- A request written into the log. -/
def logged (w : World) (e : Entry) : World := { w with log := w.log ++ [e] }

/-- Asks a page. -/
def ask (w : World) (name : String) (c : Call) : Except Failure c.Reply × World × List String :=
  let w := w.logged (.page name c)
  match planned (w.page name).plan c.planKeys with
  | some failure => (.error failure, w, [])
  | none =>
    match (w.page name).answer c with
    | .error failure => (.error failure, w, [])
    | .ok reply => let (w, announced) := w.after name c; (.ok reply, w, announced)

/-- What an answered request to the browser changes. -/
def afterContext (w : World) : ContextCall → World × List String
  | .addCookies added => ({ w with cookies := w.cookies ++ added }, [])
  | .sleep _ => ({ w with onSleep := [] } : World).applyAll w.firstPage w.onSleep
  | _ => (w, [])

/-- Asks the browser around the pages. -/
def askContext (w : World) (c : ContextCall) : Except Failure Unit × World × List String :=
  let w := w.logged (.context c)
  match planned w.plan [c.method] with
  | some failure => (.error failure, w, [])
  | none => let (w, announced) := w.afterContext c; (.ok (), w, announced)

/-- The part of the log that is shown. -/
def shownLog (w : World) : List Entry :=
  if w.tracesProbes then w.log else w.log.filter (fun e => !e.isProbe)

end World
end BrowserScript.Browser
