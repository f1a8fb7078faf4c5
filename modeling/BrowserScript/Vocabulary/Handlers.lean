/-
BrowserScript.Vocabulary.Handlers — what each action does.

A handler is given the settings and the parameters of an instruction and is a script with a value as
its result. Descriptions of elements are resolved to selectors first; addresses, keys, scripts and
paths are taken as they are.
-/
import BrowserScript.Settings.Basic
import BrowserScript.SignIn.Engine
import BrowserScript.Value.JsonText
import BrowserScript.Vocabulary.Duration

namespace BrowserScript.Vocabulary

open Browser Target

/-- What an action does with its parameters. -/
abbrev Handler := Settings → List String → Script Value

/-! ## Parameters -/

/-- A parameter that must be there. -/
def param (params : List String) (i : Nat) : Script String :=
  match params[i]? with
  | some p => pure p
  | none => Script.fault .missingParameter

/-- The selector for the description in a parameter. -/
def target (s : Settings) (params : List String) (i : Nat) : Script String := do
  resolveTarget s.probeTimeout (← param params i) none

/-- The result of an action on one element. -/
def selected (selector : String) : Value := .record [("selector", .text selector)]

/-! ## Navigation -/

/-- Whether an address begins with a scheme and two slashes. -/
def hasScheme (cs : List Char) : Bool :=
  match cs with
  | c :: rest =>
    c.isAlpha &&
      "://".toList.isPrefixOf
        (rest.dropWhile (fun c => c.isAlphanum || c == '+' || c == '.' || c == '-'))
  | [] => false

/-- An address with a scheme: a bare domain gets the usual one. -/
def normalizeUrl (url : String) : String :=
  let url := Text.trim url
  if hasScheme url.toList || ["about:", "data:", "javascript:"].any (Text.startsWith url) then url
  else "https://" ++ url

/-- Visits an address. -/
def goto : Handler := fun s params => do
  let url := normalizeUrl (← param params 0)
  let status ← Script.page (.goto url s.navigationTimeout)
  let landed ← Script.url
  pure (.record [("url", .text landed), ("status", status)])

/-- Waits for the page. -/
def waitForNavigation : Handler := fun s _ => do
  Script.page (.waitForLoad .load s.navigationTimeout)
  pure (.record [("url", .text (← Script.url))])

/-! ## Elements -/

/-- An action that makes one request with the selector of its target. -/
def onTarget (request : String → Script Unit) : Handler := fun s params => do
  let selector ← target s params 0
  request selector
  pure (selected selector)

/-- Clicks an element. -/
def click : Handler := onTarget (fun selector => Script.page (.click selector))

/-- Ticks a box. -/
def check : Handler := onTarget (fun selector => Script.page (.check selector))

/-- Unticks a box. -/
def uncheck : Handler := onTarget (fun selector => Script.page (.uncheck selector))

/-- Moves the mouse over an element. -/
def hover : Handler := onTarget (fun selector => Script.page (.hover selector))

/-- Focuses an element. -/
def focus : Handler := onTarget (fun selector => Script.page (.focus selector))

/-- Scrolls to an element. -/
def scrollIntoView : Handler := onTarget (fun selector => Script.page (.scrollIntoView selector))

/-- Waits until an element can be seen. -/
def waitForSelector : Handler := fun s =>
  onTarget (fun selector => Script.page (.waitVisible selector s.actionTimeout)) s

/-- Types the second parameter into an element and returns its selector. -/
def typeInto (s : Settings) (params : List String) : Script String := do
  let selector ← target s params 0
  let value ← Script.secret (← param params 1)
  Script.page (.click selector)
  Script.page (.fill selector value)
  pure selector

/-- Types into a field. -/
def typeText : Handler := fun s params => do
  pure (selected (← typeInto s params))

/-- Types into a field and presses the enter key. -/
def typeAndSubmit : Handler := fun s params => do
  let selector ← typeInto s params
  Script.page (.press selector "Enter")
  pure (selected selector)

/-- Pauses. -/
def wait : Handler := fun _ params => do
  let duration ← Script.ofExcept (durationOf (← param params 0))
  Script.page (.pause duration)
  pure (.record [("waited_ms", .int duration)])

/-- Chooses an option by its value, or else by its label. -/
def selectOption : Handler := fun s params => do
  let selector ← target s params 0
  let option ← param params 1
  match ← Script.page (.matchOption selector option) with
  | some part =>
    pure (.list (← Script.page (.selectOption selector part option)))
  | none => .fail (.input (.noOption option selector))

/-- Presses a key. -/
def pressKey : Handler := fun _ params => do
  let key := Text.trim (← param params 0)
  Script.page (.keyPress key)
  pure (.record [("key", .text key)])

/-- Attaches a file. -/
def uploadFile : Handler := fun s params => do
  let path ← Script.query (.expandHome (File.Path.ofString (← param params 1)))
  if !(← Script.query (.isFile path)) then .fail (.missingUpload path)
  else
    let selector ← target s params 0
    Script.page (.attachFile selector path.toString)
    pure (.record [("selector", .text selector), ("file", .text path.toString)])

/-- The middle of an element on the page. -/
def centre (selector : String) : Script (Number.Binary64 × Number.Binary64) := do
  let box := ((← Script.page (.query selector)).map Element.box).getD .null
  if box.truthy then Script.ofExcept ((boxCentre box).mapError .ordinary)
  else .fail (.input (.noBox selector))

/-- Drags one element onto another. -/
def dragAndDrop : Handler := fun s params => do
  let source ← target s params 0
  let goal ← target s params 1
  let (sx, sy) ← centre source
  let (tx, ty) ← centre goal
  Script.page (.mouseMove sx sy none)
  Script.page .mouseDown
  Script.page (.mouseMove tx ty (some 10))
  Script.page .mouseUp
  pure (.record [("source", .text source), ("target", .text goal)])

/-! ## What the page shows -/

/-- The number of elements that `inspectPage` lists at most. -/
def inspectLimit : Nat := 15

/-- The number of elements that a search by text lists at most. -/
def findLimit : Nat := 10

/-- The items of a page function's answer. -/
def listed (v : Value) : Script (List Value) :=
  match SignIn.itemsOf v with
  | .ok items => pure items
  | .error e => Script.fault e

/-- Elements that carry a text. -/
def findElements (text : String) : Script (List Value) := do
  let needle := Text.lower (Text.trim text)
  if needle == "" then pure []
  else listed (← Script.page (.find needle findLimit))

/-- Lists elements that carry a text. -/
def findElement : Handler := fun _ params => do
  pure (.list (← findElements (← param params 0)))

/-- The selector in a found element. -/
def foundSelector (v : Value) : Script Value :=
  match v with
  | .dict entries =>
    match Value.lookup (.text "selector") entries with
    | some selector => pure selector
    | none => Script.fault (.missingEntry "selector")
  | v => Script.fault (.noEntries v.typeWord)

/-- Clicks the first element that carries a text. -/
def smartClick : Handler := fun _ params => do
  let text ← param params 0
  match ← findElements text with
  | [] => .fail (.targetNotFound text 0 [])
  | best :: _ =>
    Script.page (.clickFound (← foundSelector best))
    pure best

/-- Lists the elements one can act on. -/
def inspectPage : Handler := fun _ _ => do
  pure (.list (← listed (← Script.page (.inspect inspectLimit))))

/-- The file of a screenshot: a path below the directory for artifacts, or a name made of the time. -/
def screenshotPath (s : Settings) (requested : String) : Script File.Path := do
  if requested == "" then
    let time ← Script.query .clock
    pure (s.artifactsDir.child ("screenshot-" ++ Number.intText time ++ ".png"))
  else
    let path ← Script.query (.expandHome (File.Path.ofString requested))
    if path.suffix != "" then pure (s.artifactsDir.join path)
    else if path.name == "" then Script.fault (.emptyName path)
    else pure (s.artifactsDir.join (path.addSuffix ".png"))

/-- Takes a screenshot. -/
def screenshot : Handler := fun s params => do
  let requested := Text.trim (params.headD "")
  let fullPage := Text.lower requested == "fullpage"
  let path ← screenshotPath s (if fullPage then "" else requested)
  Script.query (.makeDirs path.parent)
  Script.page (.screenshot path.toString fullPage)
  pure (.record [("path", .text path.toString), ("full_page", .bool fullPage)])

/-- The text of an element. -/
def extractText : Handler := fun s params => do
  let selector ← target s params 0
  pure (.text ((← Script.page (.textContent selector)).getD ""))

/-- The markup of an element. -/
def extractHtml : Handler := fun s params => do
  let selector ← target s params 0
  pure (.text (← Script.page (.outerHtml selector)))

/-- Runs a script in the page. -/
def evaluate : Handler := fun _ params => do
  Script.page (.evaluate (← param params 0))

/-! ## Cookies -/

/-- Lists the cookies. -/
def getCookies : Handler := fun _ _ => do
  pure (.list (← Script.query .cookies))

/-- The cookies in a text: one object or a list of them. -/
def readCookies (text : String) : Except Failure (List (List (Value × Value))) :=
  match JsonText.read text with
  | .error (.tooManyDigits count) => .error (.ordinary (.tooManyDigits count))
  | .error .malformed => .error (.input (.cookiesNotJson "the text cannot be read"))
  | .ok (.dict cookie) => .ok [cookie]
  | .ok (.list items) =>
    items.mapM (fun
      | .dict cookie => .ok cookie
      | _ => .error (.input .cookiesNotObjects))
  | .ok _ => .error (.input .cookiesNotObjects)

/-- A cookie that says where it belongs: one with neither address nor domain belongs to the page. -/
def placeCookie (url : String) (cookie : List (Value × Value)) : List (Value × Value) :=
  let has (key : String) : Bool := (Value.lookup (.text key) cookie).isSome
  if has "url" || has "domain" then cookie else Value.insert (.text "url") (.text url) cookie

/-- Adds cookies. -/
def setCookies : Handler := fun _ params => do
  let cookies ← Script.ofExcept (readCookies (← param params 0))
  let url ← Script.url
  Script.query (.addCookies (cookies.map (fun c => .dict (placeCookie url c))))
  pure (.record [("count", .int cookies.length)])

/-! ## Signing in -/

/-- The credentials in the parameters, which may refer to secrets. -/
def credentials (params : List String) : Script SignIn.Credentials := do
  let username ← Script.secret (← param params 0)
  let password ← Script.secret (← param params 1)
  let fullName ←
    match params[2]? with
    | some name => if name == "" then pure none else some <$> Script.secret name
    | none => pure none
  pure ⟨username, password, fullName⟩

/-- Signs in with an intent, or with whichever intent the page has. -/
def signInAs (intent : Option SignIn.Intent) : Handler := fun s params => do
  let c ← credentials params
  let (result, attempt) ← SignIn.authenticate ⟨s.probeTimeout, s.submitWait, s.navigationTimeout⟩ c intent
  match result with
  | .ok () => pure attempt.toValue
  | .error e => .fail e

end BrowserScript.Vocabulary
