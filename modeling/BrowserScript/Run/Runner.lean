/-
BrowserScript.Run.Runner — carrying out instructions.

Every instruction is carried out on the page that is active when it starts. Whatever goes wrong in it
is written into its outcome, and the next instruction follows.

* `Runner` is a vocabulary together with the one used for reading lines.
* `failureText` words a failure: the loss of the session is told apart from all others.
* `Runner.runOne` carries out one instruction, `Runner.run` all of them. Only the pause after actions
  that may open a page can fail beyond the instruction.
-/
import BrowserScript.Browser.Machine
import BrowserScript.Instruction.Parser
import BrowserScript.Run.Outcome
import BrowserScript.Vocabulary.BuiltIn

namespace BrowserScript.Run

open Browser Instruction Vocabulary

/-- The actions that can be carried out, those that lines are read with, and the comment marker. -/
structure Runner where
  actions : Registry Handler
  reading : Registry Handler
  marker : String

namespace Runner

/-- The runner of a vocabulary. -/
def of (actions : Registry Handler) (settings : Settings) : Runner :=
  ⟨actions, actions, settings.commentMarker⟩

end Runner

/-- The error in an outcome: a lost session is told apart, any other failure is reported with its
kind. -/
def failureText (e : Failure) : String :=
  match e with
  | .driver text => "Browser session lost: " ++ text
  | e =>
    if Failure.tellsLoss e.message then "Browser session lost: " ++ e.message else e.report

/-- Takes the announced pages and the newest open page into account. -/
def sync (m : Machine) : Machine := { m with tab := m.tab.sync m.world }

/-- The pause after actions that may open a page, in seconds. -/
def settleSeconds (s : Settings) : Except Failure (Option Number.Binary64) :=
  if s.settle ≤ 0 then .ok none
  else match Number.Binary64.quotient? s.settle 1000 with
    | some seconds => .ok (some seconds)
    | none => .error (.ordinary .quotientTooLarge)

/-- Gives a new page a moment to appear. -/
def settleNewPage (m : Machine) : Except Failure Unit × Machine :=
  match settleSeconds m.config.toSettings with
  | .error e => (.error e, m)
  | .ok none => (.ok (), sync m)
  | .ok (some seconds) =>
    match m.askContext (.sleep seconds) with
    | (.ok (), m) => (.ok (), sync m)
    | (.error e, m) => (.error e, m)

/-- Carries out an action on the active page. -/
def perform (m : Machine) (text : String) (a : Action Handler) (params : List String) :
    Except Failure Outcome × Machine :=
  match (a.handler m.config.toSettings params).run m m.tab.current with
  | (.error e, m) =>
    (.ok { instruction := text, success := false, error := failureText e, action := a.key }, m)
  | (.ok value, m) =>
    let outcome : Outcome :=
      { instruction := text, success := true, result := value, action := a.key }
    if a.opensNewPage then
      match settleNewPage m with
      | (.ok (), m) => (.ok outcome, m)
      | (.error e, m) => (.error e, m)
    else (.ok outcome, m)

namespace Runner

/-- Carries out one instruction. -/
@[irreducible] def runOne (r : Runner) (m : Machine) (line : String) : Except Failure Outcome × Machine :=
  let text := Text.trim line
  if ignorable r.marker text then
    (.ok { instruction := text, success := true, action := skipKey }, m)
  else
    let m := sync m
    match parse r.reading r.marker text with
    | .error failure => (.ok { instruction := text, success := false, error := failure.reason }, m)
    | .ok request =>
      match r.actions.lookup request.key with
      | none =>
        (.ok { instruction := text, success := false, error := "Unknown action: " ++ request.key }, m)
      | some a => perform m text a request.params

/-- Carries out instructions one after the other. -/
def run (r : Runner) (m : Machine) : List String → Except Failure (List Outcome) × Machine
  | [] => (.ok [], m)
  | line :: rest =>
    match r.runOne m line with
    | (.error e, m) => (.error e, m)
    | (.ok outcome, m) =>
      match run r m rest with
      | (.ok outcomes, m) => (.ok (outcome :: outcomes), m)
      | (.error e, m) => (.error e, m)

end Runner
end BrowserScript.Run
