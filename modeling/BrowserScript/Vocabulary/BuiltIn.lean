/-
BrowserScript.Vocabulary.BuiltIn — the actions that come with the library.

* `builtInSpecs` lists them in the order that decides between phrases of equal length.
* `vocabulary` is the registry of them, `frozenVocabulary` the one that takes no more.
-/
import BrowserScript.Instruction.Registry
import BrowserScript.Text.Blank
import BrowserScript.Vocabulary.Handlers

namespace BrowserScript.Vocabulary

open Instruction

/-- An action with its phrases written as texts. -/
def spec (key phrase : String) (handler : Handler) (minParams maxParams : Int)
    (usage description : String) (aliases : List String) (opensNewPage : Bool) :
    ActionSpec Handler :=
  { key, phrase := Text.wordsOf phrase, handler, minParams, maxParams, usage, description,
    aliases := aliases.map Text.wordsOf, opensNewPage }

/-- The actions in the order of registration. -/
def builtInSpecs : List (ActionSpec Handler) := [
  spec "goto" "go to" goto 1 1
    "go to <url>" "Navigate to a URL"
    ["goto", "navigate to", "open"] false,
  spec "click" "click" click 1 1
    "click <target>" "Click an element"
    ["click on"] true,
  spec "smartClick" "smart click" smartClick 1 1
    "smart click <text>" "Find an element by visible text and click it"
    [] true,
  spec "typeAndSubmit" "type and submit" typeAndSubmit 2 2
    "type and submit <target>, <text>" "Type into a field and press Enter"
    [] true,
  spec "type" "type" typeText 2 2
    "type <target>, <text>" "Type text into a field"
    [] false,
  spec "waitForNavigation" "wait for navigation" waitForNavigation 0 0
    "wait for navigation" "Wait for the page to finish loading"
    [] false,
  spec "waitForSelector" "wait for" waitForSelector 1 1
    "wait for <target>" "Wait until an element is visible"
    [] false,
  spec "wait" "wait" wait 1 1
    "wait <milliseconds>" "Pause for a fixed duration"
    [] false,
  spec "screenshot" "screenshot" screenshot 0 1
    "screenshot [fullPage | <path>]" "Save a screenshot"
    ["take screenshot"] false,
  spec "extractText" "extract text" extractText 1 1
    "extract text <target>" "Return an element's text content"
    [] false,
  spec "extractHTML" "extract html" extractHtml 1 1
    "extract html <target>" "Return an element's outer HTML"
    [] false,
  spec "scrollIntoView" "scroll to" scrollIntoView 1 1
    "scroll to <target>" "Scroll an element into view"
    ["scroll into view"] false,
  spec "evaluate" "evaluate" evaluate 1 1
    "evaluate <javascript>" "Run JavaScript in the page"
    [] false,
  spec "selectOption" "select" selectOption 2 2
    "select <target>, <option>" "Choose a dropdown option by value or label"
    [] false,
  spec "check" "check" check 1 1
    "check <target>" "Tick a checkbox"
    [] false,
  spec "uncheck" "uncheck" uncheck 1 1
    "uncheck <target>" "Untick a checkbox"
    [] false,
  spec "hover" "hover" hover 1 1
    "hover <target>" "Move the mouse over an element"
    ["hover over"] false,
  spec "pressKey" "press" pressKey 1 1
    "press <key>" "Press a keyboard key"
    ["press key"] false,
  spec "uploadFile" "upload" uploadFile 2 2
    "upload <target>, <file path>" "Attach a file to a file input"
    [] false,
  spec "getCookies" "get cookies" getCookies 0 0
    "get cookies" "Return the context's cookies"
    [] false,
  spec "setCookies" "set cookies" setCookies 1 1
    "set cookies <json>" "Add cookies from a JSON object or list"
    [] false,
  spec "dragAndDrop" "drag" dragAndDrop 2 2
    "drag <source>, <target>" "Drag one element onto another"
    ["drag and drop"] false,
  spec "inspectPage" "inspect page" inspectPage 0 0
    "inspect page" "List up to 15 interactive elements"
    ["inspect"] false,
  spec "findElement" "find element" findElement 1 1
    "find element <text>" "List up to 10 visible matching elements"
    [] false,
  spec "focus" "find" focus 1 1
    "find <target>" "Find an element and focus it"
    ["focus"] false,
  spec "login" "login" (signInAs (some .login)) 2 2
    "login <username or email>, <password>" "Log in on the current site"
    ["log in", "sign in"] true,
  spec "signup" "signup" (signInAs (some .signup)) 2 3
    "signup <email>, <password>[, <full name>]" "Create an account on the current site"
    ["sign up", "register"] true,
  spec "authenticate" "authenticate" (signInAs none) 2 3
    "authenticate <username or email>, <password>[, <full name>]" "Log in or sign up, whichever form the site shows"
    ["auth"] true]

/-- The actions that can be registered, in order. -/
def builtInActions : List (Action Handler) :=
  builtInSpecs.filterMap (fun s => (Action.ofSpec s).toOption)

/-- The vocabulary, open for more actions. -/
def vocabulary : Registry Handler :=
  match Registry.empty.registerAll builtInActions with
  | .ok r => r
  | .error _ => .empty

/-- The vocabulary in use. -/
def frozenVocabulary : Registry Handler := vocabulary.freeze

end BrowserScript.Vocabulary
