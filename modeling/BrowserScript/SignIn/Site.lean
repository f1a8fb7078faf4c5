/-
BrowserScript.SignIn.Site — sites with a login sequence of their own.

* `Step` is one step of such a sequence, `Site` a sequence for a domain.
* `sites` are the known ones.
* `siteFor` chooses by the host of an address alone.
* `Site.run` performs the steps.
-/
import BrowserScript.Address
import BrowserScript.Browser.Script
import BrowserScript.Settings.Secret

namespace BrowserScript.SignIn

open Browser

/-- What to type into the form. -/
structure Credentials where
  username : String
  password : String
  fullName : Option String
  deriving Repr, DecidableEq

/-- Credentials as messages show them, with the password masked. -/
def Credentials.shown (c : Credentials) : String :=
  "Credentials(username=" ++ Text.quoted c.username ++ ", password=" ++
    Text.quoted (mask c.password) ++ ", full_name=" ++ (Value.ofText? c.fullName).quoted ++ ")"

/-- What a step does with its element. -/
inductive StepKind where
  | username
  | password
  | click
  | wait
  | unknown (word : String)
  deriving Repr, DecidableEq

/-- The word for a kind. -/
def StepKind.word : StepKind → String
  | .username => "username"
  | .password => "password"
  | .click => "click"
  | .wait => "wait"
  | .unknown word => word

/-- The kind of a word. -/
def StepKind.ofWord (word : String) : StepKind :=
  if word == "username" then .username
  else if word == "password" then .password
  else if word == "click" then .click
  else if word == "wait" then .wait
  else .unknown word

/-- A step on one element. -/
structure Step where
  kind : StepKind
  selector : String
  deriving Repr, DecidableEq

/-- The login sequence of a domain. -/
structure Site where
  domain : String
  steps : List Step
  deriving Repr, DecidableEq

/-- The known sites. -/
def sites : List Site := [
  ⟨"github.com", [
    ⟨.username, "#login_field"⟩,
    ⟨.password, "#password"⟩,
    ⟨.click, "input[name=\"commit\"]"⟩]⟩,
  ⟨"google.com", [
    ⟨.username, "input[type=\"email\"]"⟩,
    ⟨.click, "#identifierNext"⟩,
    ⟨.wait, "input[name=\"Passwd\"]"⟩,
    ⟨.password, "input[name=\"Passwd\"]"⟩,
    ⟨.click, "#passwordNext"⟩]⟩]

/-- Whether a host is a domain or lies below it. -/
def inDomain (host domain : String) : Bool := host == domain || Text.endsWith host ("." ++ domain)

/-- The site of an address. -/
def siteFor (url : String) : Except Fault (Option Site) :=
  (domainOf url).map (fun host =>
    if host == "" then none else sites.find? (fun s => inDomain host s.domain))

/-- What a step does once its element can be seen. -/
def Step.act (credentials : Credentials) (s : Step) : Script Unit :=
  match s.kind with
  | .username => Script.page (.fill s.selector credentials.username)
  | .password => Script.page (.fill s.selector credentials.password)
  | .click => Script.page (.click s.selector)
  | .wait => pure ()
  | .unknown word => .fail (.input (.unknownStep word))

/-- Performs steps one after the other. -/
def runSteps (credentials : Credentials) (timeout : Int) : List Step → Script Unit
  | [] => pure ()
  | s :: rest => do
    Script.page (.waitVisible s.selector timeout)
    s.act credentials
    runSteps credentials timeout rest

end BrowserScript.SignIn
