/-
BrowserScript.SignIn.Engine — signing in on a site never seen before.

An attempt first tries the login sequence of a known site, when a login may be wanted and the site
might show no form yet. Otherwise it looks for a form: on the page, behind a link that does not speak
of the opposite intent, and at the usual paths of the site. It then finds out what the form is for,
fills it in and sends it.

* `reachForm` looks for a form.
* `trySite` runs the sequence of a known site.
* `fillForm` and `submitForm` fill the form in and send it.
* `approach`, `fillIn` and `finish` are the parts of an attempt, before, while and after the fields are
  filled in.
* `signIn` is the whole attempt, `authenticate` its outcome together with its record.
-/
import BrowserScript.SignIn.Attempt
import BrowserScript.SignIn.Form
import BrowserScript.SignIn.Site
import BrowserScript.Target.Resolve

namespace BrowserScript.SignIn

open Browser Target

/-- How long an attempt waits, in milliseconds: for an element, for a navigation after sending the
form, for a page. -/
structure Patience where
  probe : Int := 300
  submit : Int := 10000
  navigation : Int := 60000
  deriving Repr

/-! ## Waiting -/

/-- Waits until a page is there; one that stays away does not matter. -/
def settle (p : Patience) : Script Unit :=
  (Script.page (.waitForLoad .contentLoaded p.submit)).rescue (fun
    | .timeout _ => pure ()
    | e => .fail e)

/-- Waits until the address differs from `before`, and tells whether it came to that. -/
def waitForNavigation (p : Patience) (before : String) : Script Bool := do
  let left ← (do Script.page (.waitForUrlChange before p.submit); pure true).rescue (fun
    | .timeout _ => pure false
    | e => .fail e)
  if left then settle p
  pure left

/-! ## Reaching a form -/

/-- What a link says: its text, address and label, in lower case. -/
def linkText (e : Element) : String :=
  Text.lower (Text.joined " "
    (([e.text, e.attribute? "href", e.attribute? "aria-label"].filterMap id).filter (· != "")))

/-- Whether an element carries none of some words. -/
def lacksWords (words : List String) (e : Element) : Bool :=
  !words.any (Text.contains (linkText e))

/-- Clicks the best link for an intent, and tells whether there was one. -/
def clickLink (p : Patience) (intent : Intent) : Script Bool := do
  let r ← resolve p.probe intent.links (lacksWords intent.excludedWords)
  match r.selector with
  | none => pure false
  | some selector =>
    Script.page (.click selector)
    settle p
    pure true

/-- Visits addresses until one shows a form; refused visits do not matter. -/
def visitPaths (p : Patience) : List String → Script Bool
  | [] => pure false
  | url :: rest => do
    let visited ← (do let _ ← Script.page (.goto url p.navigation); pure true).onRefusal
      (fun _ => pure false)
    if visited then
      if ← hasAuthForm then pure true else visitPaths p rest
    else visitPaths p rest

/-- The scheme and authority before a path, when they are those of a web page. -/
def originOf (a : Address) : Option String :=
  if (a.scheme == "http" || a.scheme == "https") && a.authority != "" then
    some (a.scheme ++ "://" ++ a.authority)
  else none

/-- Looks for a form at the usual paths of the site. -/
def probePaths (p : Patience) (intent : Intent) : Script Bool := do
  match Address.parse (← Script.url) with
  | .error e => Script.fault e
  | .ok address =>
    match originOf address with
    | none => pure false
    | some origin => visitPaths p (intent.paths.map (origin ++ ·))

/-- Looks for a form. -/
def reachForm (p : Patience) (intent : Intent) : Flow Unit := do
  if ← Flow.lift hasAuthForm then Flow.advance .onAuthPage
  else
    Flow.advance .findingAuthLink
    let viaLink ← Flow.lift (do
      if ← clickLink p intent then hasAuthForm else pure false)
    if viaLink then Flow.advance .onAuthPage
    else if ← Flow.lift (probePaths p intent) then Flow.advance .onAuthPage
    else Flow.fail (.noForm intent)

/-! ## Known sites -/

/-- Runs the sequence of the site of the page. The domain of the site, when there is one and its
sequence went through. -/
def siteSequence (p : Patience) (credentials : Credentials) : Script (Option String) := do
  match siteFor (← Script.url) with
  | .error e => Script.fault e
  | .ok none => pure none
  | .ok (some site) =>
    (do runSteps credentials p.navigation site.steps; pure (some site.domain)).onRefusal
      (fun _ => pure none)

/-- Runs the sequence of the site of the page, and tells whether that settled the attempt. -/
def trySite (p : Patience) (credentials : Credentials) : Flow Bool := do
  match ← Flow.lift (siteSequence p credentials) with
  | none => pure false
  | some domain =>
    modify (fun a => { a with strategy := domain, submittedVia := "site" })
    pure true

/-! ## Filling in and sending -/

/-- The first field of a table that can be seen. -/
def findField (p : Patience) (fields : List String) : Script (Option String) := do
  pure (← resolve p.probe fields (fun _ => true)).selector

/-- A field that the form must have. -/
def needField (p : Patience) (fields : List String) (name : String) : Script String := do
  match ← findField p fields with
  | some selector => pure selector
  | none => .fail (.signIn (.noField name))

/-- The full name to type in, if there is one. -/
def Credentials.name? (c : Credentials) : Option String :=
  match c.fullName with
  | some name => if name == "" then none else some name
  | none => none

/-- The field for the full name, when there is a name to sign up with. -/
def nameField (p : Patience) (c : Credentials) : Intent → Script (Option String)
  | .login => pure none
  | .signup =>
    match c.name? with
    | some _ => findField p fullNameFields
    | none => pure none

/-- The field for the password once more, when signing up shows one of its own. -/
def confirmField (p : Patience) (password : String) : Intent → Script (Option String)
  | .login => pure none
  | .signup => do
    let confirm ← findField p confirmFields
    pure (if confirm == some password then none else confirm)

/-- The fields of a form. -/
structure Fields where
  username : String
  name : Option String
  password : String
  confirm : Option String
  deriving Repr, DecidableEq

/-- Looks the fields of a form up. -/
def findFields (p : Patience) (c : Credentials) (intent : Intent) : Script Fields := do
  let username ← needField p usernameFields "username"
  let name ← nameField p c intent
  let password ← needField p passwordFields "password"
  let confirm ← confirmField p password intent
  pure ⟨username, name, password, confirm⟩

/-- Types into a field that may be missing. -/
def fillMaybe (selector : Option String) (value : String) : Script Unit :=
  match selector with
  | some selector => Script.page (.fill selector value)
  | none => pure ()

/-- Types into the fields of a form. -/
def typeIn (c : Credentials) (f : Fields) : Script Unit := do
  Script.page (.fill f.username c.username)
  fillMaybe f.name (c.name?.getD "")
  Script.page (.fill f.password c.password)
  fillMaybe f.confirm c.password

/-- Fills the form in. All fields are looked up before anything is typed. -/
def fillForm (p : Patience) (c : Credentials) (intent : Intent) : Script Unit := do
  typeIn c (← findFields p c intent)

/-- Sends the form: by its button, or else by the enter key in the password field. -/
def submitForm (p : Patience) (intent : Intent) : Script String := do
  match ← findField p intent.buttons with
  | some button =>
    Script.page (.click button)
    pure button
  | none =>
    let password ← needField p passwordFields "password"
    Script.page (.press password "Enter")
    pure "enter"

/-! ## The attempt -/

/-- Where an attempt stands once the fields are to be filled in: the sequence of a known site has signed
in from an address, or there is a form with an intent at an address. -/
inductive Standing where
  | settled (start : String)
  | atForm (intent : Intent) (address : String) (siteTried : Bool)
  deriving Repr, DecidableEq

/-- Whether a known site is tried before a form is looked for: for a login, and when the intent is left
open and no form shows yet. -/
def siteComesFirst : Option Intent → Flow Bool
  | some .login => pure true
  | some .signup => pure false
  | none => (!·) <$> Flow.lift hasAuthForm

/-- What the form is for: the intent asked for, or else the one that the page suggests. -/
def formIntent : Option Intent → Flow Intent
  | some intent => pure intent
  | none => Flow.lift inferIntent

/-- Finds out what the form is for. The intent, and the address before the filling. -/
def detect (requested : Option Intent) : Flow (Intent × String) := do
  Flow.advance .detectingFormType
  let intent ← formIntent requested
  modify (fun a => { a with intent := some intent })
  Flow.advance .fillingFields
  let address ← Flow.lift Script.url
  pure (intent, address)

/-- Tries a known site before a form is looked for, if it comes first. -/
def earlySite (p : Patience) (c : Credentials) (siteFirst : Bool) : Flow Bool :=
  if siteFirst then trySite p c else pure false

/-- Everything before the fields are filled in. -/
def approach (p : Patience) (c : Credentials) (requested : Option Intent) : Flow Standing := do
  let start ← Flow.lift Script.url
  let siteFirst ← siteComesFirst requested
  if ← earlySite p c siteFirst then
    modify (fun a => { a with intent := some .login })
    Flow.advance .onAuthPage
    Flow.advance .fillingFields
    pure (.settled start)
  else
    reachForm p (requested.getD .login)
    let (intent, address) ← detect requested
    pure (.atForm intent address siteFirst)

/-- Tries a known site on a form that turned out to be for a login, unless it was tried before. -/
def lateSite (p : Patience) (c : Credentials) (intent : Intent) (siteTried : Bool) : Flow Bool :=
  if !siteTried && intent == .login then trySite p c else pure false

/-- Fills in what is not filled in yet. The result tells whether a site sequence did it, and the address
before that. -/
def fillIn (p : Patience) (c : Credentials) : Standing → Flow (Bool × String)
  | .settled start => pure (true, start)
  | .atForm intent address siteTried => do
    if ← lateSite p c intent siteTried then pure (true, address)
    else
      Flow.lift (fillForm p c intent)
      pure (false, address)

/-- Sends the form, unless a site sequence has done so. -/
def send (p : Patience) (bySite : Bool) : Flow Unit :=
  if bySite then pure ()
  else do
    let a ← get
    let via ← Flow.lift (submitForm p (a.intent.getD .login))
    modify (fun a => { a with submittedVia := via })

/-- Sends the form and waits for the page to leave the address `before`. -/
def finish (p : Patience) (bySite : Bool) (before : String) : Flow Unit := do
  Flow.advance .submitting
  send p bySite
  let navigated ← Flow.lift (waitForNavigation p before)
  let url ← Flow.lift Script.url
  modify (fun a => { a with navigated := navigated, url := url })
  Flow.advance .done

/-- Signs in. -/
def signIn (p : Patience) (c : Credentials) (requested : Option Intent) : Flow Unit := do
  let standing ← approach p c requested
  let (bySite, before) ← fillIn p c standing
  finish p bySite before

/-- An attempt with its record; a failure ends it at the failed stage. -/
def authenticate (p : Patience) (c : Credentials) (requested : Option Intent) :
    Script (Except Failure Unit × Attempt) := do
  let (result, a) ← (signIn p c requested).run { intent := requested }
  match result with
  | .ok () => pure (.ok (), a)
  | .error e => pure (.error e, a.advance .failed)

end BrowserScript.SignIn
