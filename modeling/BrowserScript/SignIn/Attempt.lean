/-
BrowserScript.SignIn.Attempt — one attempt to sign in.

* `Stage` is how far an attempt has come; stages follow each other in the order in which they are
  listed.
* `Attempt` holds the stages it has come to and what is known about the outcome.
* `Flow` is a script that also records an attempt; the record survives a failure.
-/
import BrowserScript.Browser.Script

namespace BrowserScript.SignIn

open Browser

/-- How far an attempt has come. -/
inductive Stage where
  | notOnAuthPage
  | findingAuthLink
  | onAuthPage
  | detectingFormType
  | fillingFields
  | submitting
  | done
  | failed
  deriving Repr, DecidableEq

/-- The word for a stage. -/
def Stage.word : Stage → String
  | .notOnAuthPage => "not_on_auth_page"
  | .findingAuthLink => "finding_auth_link"
  | .onAuthPage => "on_auth_page"
  | .detectingFormType => "detecting_form_type"
  | .fillingFields => "filling_fields"
  | .submitting => "submitting"
  | .done => "done"
  | .failed => "failed"

/-- The name of the strategy that serves every site. -/
def genericStrategy : String := "generic"

/-- An attempt: the intent once it is known, the stage it is at, the stages it has come to, the strategy,
what submitted the form, whether the page was left, and the last address. -/
structure Attempt where
  intent : Option Intent
  stage : Stage := .notOnAuthPage
  history : List Stage := [.notOnAuthPage]
  strategy : String := genericStrategy
  submittedVia : String := ""
  navigated : Bool := false
  url : String := ""
  deriving Repr

namespace Attempt

/-- The attempt at its next stage. -/
def advance (a : Attempt) (s : Stage) : Attempt := { a with stage := s, history := a.history ++ [s] }

/-- The outcome of an attempt as a result. -/
def toValue (a : Attempt) : Value :=
  .record [
    ("auth_type", .ofText? (a.intent.map Intent.word)),
    ("state", .text a.stage.word),
    ("strategy", .text a.strategy),
    ("submitted_via", .text a.submittedVia),
    ("navigated", .bool a.navigated),
    ("url", .text a.url)]

end Attempt

/-- A script that records an attempt. -/
abbrev Flow := ExceptT Failure (StateT Attempt Script)

namespace Flow

variable {α : Type}

/-- A script inside an attempt. -/
def lift (s : Script α) : Flow α := ExceptT.mk (fun a => do
  let result ← s.attempt
  pure (result, a))

/-- Reaches a stage. -/
def advance (s : Stage) : Flow Unit := modify (·.advance s)

/-- Ends an attempt with a failure. -/
def fail (fault : SignInFault) : Flow α := throw (.signIn fault)

end Flow
end BrowserScript.SignIn
