/-
BrowserScript.Browser.Description — browsers described in documents.

A description is a value with entries: the pages with their elements, routes and scripts, the effects
of clicks, and the failures that are planned. What it leaves out is as on a blank page.

* `failureOf`, `elementOf`, `effectOf` and `pageOf` read the parts.
* `World.ofValue` reads a whole description.
-/
import BrowserScript.Browser.World

namespace BrowserScript.Browser.Description

/-! ## Entries -/

/-- The items of a list. -/
def items : Value → List Value
  | .list vs => vs
  | _ => []

/-- The entries of a value with text keys. -/
def entries : Value → List (String × Value)
  | .dict es => es.map (fun e => (e.1.plain, e.2))
  | _ => []

/-- An entry that is there and not nothing. -/
def present (v : Value) (key : String) : Option Value :=
  match v.get? key with
  | some .null => none
  | found => found

/-- A text. -/
def text? : Value → Option String
  | .text s => some s
  | _ => none

/-- A text entry. -/
def textIn (v : Value) (key : String) : Option String := (present v key).bind text?

/-- A text entry, or a usual text. -/
def textEntry (v : Value) (key usual : String) : String := (textIn v key).getD usual

/-- An entry that counts as true or false. -/
def flag (v : Value) (key : String) (usual : Bool) : Bool := ((v.get? key).map Value.truthy).getD usual

/-! ## Parts -/

/-- A failure: its kind and its wording. -/
def failureOf (v : Value) : Failure :=
  match items v with
  | [.text kind, .text message] =>
    if kind == "DriverError" then .driver message
    else if kind == "TimeoutError" then .timeout message
    else if kind == "RuntimeError" then .outside false message
    else if kind == "ValueError" then .outside true message
    else .browser message
  | _ => .browser ""

/-- Planned failures by the name of the request. -/
def planOf (v : Value) : List (String × Failure) :=
  (entries v).map (fun e => (e.1, failureOf e.2))

/-- A value and the label shown for it. -/
def optionOf (v : Value) : Option (Value × Value) :=
  match items v with
  | [value, label] => some (value, label)
  | _ => none

/-- An element. -/
def elementOf (v : Value) : Element :=
  { visible := (v.get? "visible").getD (.bool true)
    text := match v.get? "text" with
      | some found => text? found
      | none => some ""
    attributes := (entries ((v.get? "attrs").getD .null)).filterMap
      (fun e => (text? e.2).map (fun s => (e.1, s)))
    html := textEntry v "html" ""
    box := (v.get? "box").getD usualBox
    options := (items ((v.get? "options").getD .null)).filterMap optionOf
    visibilityFailure := (present v "visibility_error").map failureOf }

/-- Elements by their selectors. -/
def elementsOf (v : Value) : List (String × Element) :=
  (entries v).map (fun e => (e.1, elementOf e.2))

/-- Elements set, or removed where nothing stands. -/
def changesOf (v : Value) : List (String × Option Element) :=
  (entries v).map (fun e =>
    (e.1, match e.2 with
      | .null => none
      | found => some (elementOf found)))

/-- An effect. -/
def effectOf (v : Value) : Option Effect :=
  let page := textIn v "page"
  match textIn v "do" with
  | some "url" => some (.visit page (textEntry v "url" ""))
  | some "elements" => some (.setElements page (changesOf ((v.get? "set").getD .null)))
  | some "open" => some (.openPage page (flag v "emit" true))
  | some "close" => some (.close page)
  | some "drop" => some (.drop page)
  | some "fail" => some (.planFailures page (planOf ((v.get? "set").getD .null)))
  | _ => none

/-- Effects in order. -/
def effectsOf (v : Value) : List Effect := (items v).filterMap effectOf

/-- Where an address leads. -/
def routeOf (v : Value) : Route :=
  { elements := (v.get? "elements").map elementsOf
    forms := v.get? "forms"
    signals := v.get? "signals"
    find := v.get? "find"
    inspect := v.get? "inspect"
    landsOn := textIn v "lands_on"
    status := (v.get? "status").getD (.int 200) }

/-- A page. -/
def pageOf (v : Value) : Page :=
  { name := textEntry v "name" ""
    url := textEntry v "url" "about:blank"
    closed := flag v "closed" false
    elements := elementsOf ((v.get? "elements").getD .null)
    forms := (v.get? "forms").getD .null
    signals := (v.get? "signals").getD .null
    find := (v.get? "find").getD .null
    inspect := (v.get? "inspect").getD .null
    scripts := entries ((v.get? "scripts").getD .null)
    onClick := (entries ((v.get? "on_click").getD .null)).map (fun e => (e.1, effectsOf e.2))
    routes := (entries ((v.get? "routes").getD .null)).map (fun e => (e.1, routeOf e.2))
    plan := planOf ((v.get? "fail").getD .null) }

/-- The pages of a browser; without a description there is one blank page. -/
def pagesOf (v : Value) : List Page :=
  match (items ((v.get? "pages").getD .null)).map pageOf with
  | [] => [{ name := "main" }]
  | pages => pages

/-- A browser. Without a list of its own, the context holds the first page. -/
def worldOf (v : Value) : World :=
  { pages := pagesOf v
    context := match v.get? "open" with
      | some (.list names) => names.filterMap text?
      | _ => ((pagesOf v).take 1).map (·.name)
    cookies := items ((v.get? "cookies").getD .null)
    plan := planOf ((v.get? "fail").getD .null)
    onSleep := effectsOf ((v.get? "on_sleep").getD .null)
    tracesProbes := flag v "trace_probes" false }

end BrowserScript.Browser.Description

namespace BrowserScript.Browser

/-- The browser that a value describes. -/
def World.ofValue (v : Value) : World := Description.worldOf v

end BrowserScript.Browser
