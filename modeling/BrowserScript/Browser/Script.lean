/-
BrowserScript.Browser.Script — programs that talk to one page.

A script asks one question after the other and goes on with each answer or refusal. It knows no page by
name, so all its requests go to the page on which it is run, and it sees a secret only as the answer to
a question.

* `Question` is what a script can ask, `Question.Reply` the type of the answer.
* `Script` is a script with a result; scripts are composed with `do`.
* `Script.attempt` turns a failure into a result, `Script.rescue` handles some failures.
-/
import BrowserScript.Browser.Call

namespace BrowserScript.Browser

/-- What a script can ask: requests to its page and to the browser, the address of the page, the value
of a parameter that may refer to a secret, the files around it, and the time in milliseconds. -/
inductive Question where
  | page (call : Call)
  | url
  | cookies
  | addCookies (added : List Value)
  | secret (parameter : String)
  | isFile (path : File.Path)
  | makeDirs (path : File.Path)
  | expandHome (path : File.Path)
  | clock
  deriving Repr

/-- The type of an answer. -/
abbrev Question.Reply : Question → Type
  | .page call => call.Reply
  | .url => String
  | .cookies => List Value
  | .addCookies _ => Unit
  | .secret _ => String
  | .isFile _ => Bool
  | .makeDirs _ => Unit
  | .expandHome _ => File.Path
  | .clock => Int

/-- A script: a result, a failure, or a question and what to do with the answer. -/
inductive Script (α : Type) where
  | done (result : α)
  | fail (failure : Failure)
  | ask (question : Question) (next : Except Failure question.Reply → Script α)

namespace Script

variable {α β : Type}

/-- Goes on with the result of a script. -/
def bind : Script α → (α → Script β) → Script β
  | .done a, f => f a
  | .fail e, _ => .fail e
  | .ask q next, f => .ask q (fun reply => bind (next reply) f)

instance : Monad Script where
  pure := .done
  bind := bind

/-- The failure of a script as a result. -/
def attempt : Script α → Script (Except Failure α)
  | .done a => .done (.ok a)
  | .fail e => .done (.error e)
  | .ask q next => .ask q (fun reply => attempt (next reply))

/-- A script that goes on with a result or fails. -/
def ofExcept : Except Failure α → Script α
  | .ok a => .done a
  | .error e => .fail e

/-- Asks a question; a refusal is a failure. -/
def query (q : Question) : Script q.Reply := .ask q ofExcept

/-- Asks the page. -/
def page (call : Call) : Script call.Reply := query (.page call)

/-- The address of the page. -/
def url : Script String := query .url

/-- What a parameter stands for. -/
def secret (parameter : String) : Script String := query (.secret parameter)

/-- Handles a failure of a script. -/
def rescue (s : Script α) (handle : Failure → Script α) : Script α := do
  match ← s.attempt with
  | .ok a => pure a
  | .error e => handle e

/-- An ordinary fault as a failure. -/
def fault (f : Fault) : Script α := .fail (.ordinary f)

/-- A refusal of the browser which says that the session is gone becomes a loss of the driver; other
refusals are handled, other failures stay. -/
def onRefusal (s : Script α) (handle : Failure → Script α) : Script α :=
  s.rescue (fun e =>
    if e.isBrowser then
      if Failure.tellsLoss e.message then .fail (.driver ("Browser session is gone: " ++ e.message))
      else handle e
    else .fail e)

end Script
end BrowserScript.Browser
