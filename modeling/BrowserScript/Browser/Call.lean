/-
BrowserScript.Browser.Call — what can be asked of a browser.

* `Call` is a request to one page, `ContextCall` a request to the browser around the pages.
* `Call.Reply` is the type of what a page answers.
* `method` and `arguments` are how a request is written down.
* `Call.planKeys` are the names under which a failure of a request can be planned.
-/
import BrowserScript.Browser.Element
import BrowserScript.Browser.PageFunctions

namespace BrowserScript.Browser

open Number

/-- Which part of an option equals a wanted text. -/
inductive OptionPart where
  | value
  | label
  deriving Repr, DecidableEq

/-- How far a page has loaded. -/
inductive LoadState where
  | load
  | contentLoaded
  deriving Repr, DecidableEq

/-- The word for a load state. -/
def LoadState.word : LoadState → String
  | .load => "load"
  | .contentLoaded => "domcontentloaded"

/-- A request to a page; times are in milliseconds. `clickFound` clicks what the page itself named, which
need not be a text. -/
inductive Call where
  | probe (selector : String) (timeout : Int)
  | waitVisible (selector : String) (timeout : Int)
  | query (selector : String)
  | click (selector : String)
  | clickFound (selector : Value)
  | fill (selector value : String)
  | press (selector key : String)
  | check (selector : String)
  | uncheck (selector : String)
  | hover (selector : String)
  | focus (selector : String)
  | attachFile (selector path : String)
  | textContent (selector : String)
  | selectOption (selector : String) (part : OptionPart) (option : String)
  | outerHtml (selector : String)
  | matchOption (selector wanted : String)
  | scrollIntoView (selector : String)
  | forms
  | signals
  | find (needle : String) (limit : Nat)
  | inspect (limit : Nat)
  | evaluate (script : String)
  | goto (url : String) (timeout : Int)
  | waitForLoad (state : LoadState) (timeout : Int)
  | pause (duration : Int)
  | screenshot (path : String) (fullPage : Bool)
  | keyPress (key : String)
  | mouseMove (x y : Binary64) (steps : Option Nat)
  | mouseDown
  | mouseUp
  | waitForUrlChange (before : String) (timeout : Int)
  deriving Repr

namespace Call

/-- What a page answers. -/
abbrev Reply : Call → Type
  | .probe .. => Element
  | .query _ => Option Element
  | .textContent _ => Option String
  | .selectOption .. => List Value
  | .outerHtml _ => String
  | .matchOption .. => Option OptionPart
  | .forms | .signals | .find .. | .inspect _ | .evaluate _ => Value
  | .goto .. => Value
  | _ => Unit

/-- The name of a request. -/
def method : Call → String
  | .probe .. => "probe"
  | .waitVisible .. => "wait_for_selector"
  | .query _ => "query_selector"
  | .click _ | .clickFound _ => "click"
  | .fill .. => "fill"
  | .press .. => "press"
  | .check _ => "check"
  | .uncheck _ => "uncheck"
  | .hover _ => "hover"
  | .focus _ => "focus"
  | .attachFile .. => "set_input_files"
  | .textContent _ => "text_content"
  | .selectOption .. => "select_option"
  | .outerHtml _ | .matchOption .. | .scrollIntoView _ => "eval_on_selector"
  | .forms | .signals | .find .. | .inspect _ | .evaluate _ => "evaluate"
  | .goto .. => "goto"
  | .waitForLoad .. => "wait_for_load_state"
  | .pause _ => "wait_for_timeout"
  | .screenshot .. => "screenshot"
  | .keyPress _ => "keyboard.press"
  | .mouseMove .. => "mouse.move"
  | .mouseDown => "mouse.down"
  | .mouseUp => "mouse.up"
  | .waitForUrlChange .. => "wait_for_url"

/-- The page functions that a request can evaluate. -/
def evaluated : List PageFunction := [.authForm, .pageSignals, .find, .inspect]

/-- The page function whose source a script is. -/
def evaluated? (script : String) : Option PageFunction :=
  evaluated.find? (fun f => f.source == script)

/-- A script as it is written down: a page function by its name, any other script itself. -/
def evaluatedName (script : String) : String := ((evaluated? script).map (·.name)).getD script

/-- The arguments of a request as they are written down. -/
def arguments : Call → List Value
  | .probe selector timeout => [.text selector, .int timeout]
  | .waitVisible selector timeout => [.text selector, .text "visible", .int timeout]
  | .query selector | .click selector | .check selector | .uncheck selector | .hover selector
  | .focus selector | .textContent selector => [.text selector]
  | .clickFound selector => [selector]
  | .fill selector value => [.text selector, .text value]
  | .press selector key => [.text selector, .text key]
  | .attachFile selector path => [.text selector, .text path]
  | .selectOption selector .value option => [.text selector, .text option, .null]
  | .selectOption selector .label option => [.text selector, .null, .text option]
  | .outerHtml selector => [.text selector, .text PageFunction.outerHtml.name, .null]
  | .matchOption selector wanted => [.text selector, .text PageFunction.optionMatch.name, .text wanted]
  | .scrollIntoView selector => [.text selector, .text PageFunction.scrollIntoView.name, .null]
  | .forms => [.text PageFunction.authForm.name, .null]
  | .signals => [.text PageFunction.pageSignals.name, .null]
  | .find needle limit => [.text PageFunction.find.name, .list [.text needle, .int limit]]
  | .inspect limit => [.text PageFunction.inspect.name, .int limit]
  | .evaluate script => [.text (evaluatedName script), .null]
  | .goto url timeout => [.text url, .text LoadState.contentLoaded.word, .int timeout]
  | .waitForLoad state timeout => [.text state.word, .int timeout]
  | .pause duration => [.int duration]
  | .screenshot path fullPage => [.text path, .bool fullPage]
  | .keyPress key => [.text key]
  | .mouseMove x y steps =>
    [.float x, .float y, match steps with | some n => .int n | none => .null]
  | .mouseDown | .mouseUp => []
  | .waitForUrlChange _ timeout => [.int timeout]

/-- The names under which a failure of the request can be planned, the most special first. -/
def planKeys (c : Call) : List String :=
  match c.arguments with
  | first :: _ => [c.method ++ ":" ++ first.plain, c.method]
  | [] => [c.method]

end Call

/-- A request to the browser around the pages. -/
inductive ContextCall where
  | cookies
  | addCookies (cookies : List Value)
  | sleep (seconds : Binary64)
  | startDriver
  | launch (browser : String) (headless : Bool)
  | newContext (width height : Value)
  | setNavigationTimeout (timeout : Int)
  | setTimeout (timeout : Int)
  | newPage
  | closeContext
  | closeBrowser
  | stopDriver
  deriving Repr

namespace ContextCall

/-- The name of a request. -/
def method : ContextCall → String
  | .cookies => "context.cookies"
  | .addCookies _ => "context.add_cookies"
  | .sleep _ => "sleep"
  | .startDriver => "playwright.start"
  | .launch .. => "launch"
  | .newContext .. => "browser.new_context"
  | .setNavigationTimeout _ => "context.set_default_navigation_timeout"
  | .setTimeout _ => "context.set_default_timeout"
  | .newPage => "context.new_page"
  | .closeContext => "context.close"
  | .closeBrowser => "browser.close"
  | .stopDriver => "playwright.stop"

/-- The arguments of a request as they are written down. -/
def arguments : ContextCall → List Value
  | .addCookies added => [.list added]
  | .sleep seconds => [.float seconds]
  | .launch browser headless => [.text browser, .bool headless]
  | .newContext width height => [.record [("width", width), ("height", height)]]
  | .setNavigationTimeout timeout | .setTimeout timeout => [.int timeout]
  | _ => []

end ContextCall

/-- A request that was made: to a page, by its name, or to the browser. -/
inductive Entry where
  | page (name : String) (call : Call)
  | context (call : ContextCall)
  deriving Repr

namespace Entry

/-- An entry as it is written down: page, method, arguments. -/
def toValue : Entry → Value
  | .page name call => .list (.text name :: .text call.method :: call.arguments)
  | .context call => .list (.text "" :: .text call.method :: call.arguments)

/-- Whether an entry only looked for an element. -/
def isProbe : Entry → Bool
  | .page _ (.probe ..) => true
  | _ => false

end Entry
end BrowserScript.Browser
