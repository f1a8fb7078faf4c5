/-
BrowserScript.Proofs.Run.LostSession — what is recorded as a lost session.

A session is lost when the driver says so, or when the browser refuses a request with one of the wordings
for it (`Failure.meansLoss`). Two things are asked of the runner: that such a failure ends its instruction,
and that only such a failure is recorded as a loss.

* `runOne_stops_at_loss`: when the browser tells of the loss while a built-in action is carried out, nothing
  more is asked and the outcome says that the session is lost.
* `failureText_eq`: the runner searches every wording for the texts that tell of a loss, also those that
  speak of something else and quote what the user wrote.
* `failureText_targetNotFound`: a description with such a text in it makes a lost session of every target
  that is not found.

Main statement: `runOne_error_eq`. A failure is recorded as it should be exactly when no such text stands in
the wording of an ordinary failure. `runOne_targetClosed` is an instruction whose failure is not.
-/
import BrowserScript.Proofs.Browser.Loss
import BrowserScript.Proofs.Run.EveryLine

namespace BrowserScript

/-! ## §1 What means a loss -/

namespace Failure

/-- Whether a failure means that the session is gone: the driver says so, or the browser refuses a request
and says so. -/
def meansLoss : Failure → Bool
  | .driver _ => true
  | .browser text | .timeout text => tellsLoss text
  | _ => false

theorem Lost.meansLoss {e : Failure} (h : e.Lost) : e.meansLoss = true := by
  cases h with
  | driver text => rfl
  | browser htext => exact htext

end Failure

namespace Run

open Browser Instruction Vocabulary

/-! ## §2 The wording of a failure -/

/-- The error as it should be: a loss where the failure means one, and otherwise kind and wording. -/
def properText (e : Failure) : String :=
  if e.meansLoss then "Browser session lost: " ++ e.message else e.report

/-- What is recorded as a loss: what means one, and every other failure whose wording contains one of the
texts for it. -/
theorem failureText_eq (e : Failure) :
    failureText e
      = if e.meansLoss || Failure.tellsLoss e.message then "Browser session lost: " ++ e.message
        else e.report := by
  cases e with
  | driver text => rfl
  | browser text | timeout text =>
    show _ = if (Failure.tellsLoss text || Failure.tellsLoss text) = true then _ else _
    rw [Bool.or_self]
    rfl
  | _ =>
    show _ = if (false || _) = true then _ else _
    rw [Bool.false_or]
    rfl

theorem failureText_of_lost {e : Failure} (h : e.Lost) :
    failureText e = "Browser session lost: " ++ e.message := by
  rw [failureText_eq, h.meansLoss]
  rfl

/-- A report reads as a loss only if the kind of the failure does. -/
theorem lost_eq_report_iff (e : Failure) :
    "Browser session lost: " ++ e.message = e.report ↔ e.kind = "Browser session lost" := by
  have hmark : "Browser session lost: " = "Browser session lost" ++ ": " := rfl
  rw [hmark, Failure.report, String.append_left_inj, String.append_left_inj]
  exact eq_comm

theorem failureText_eq_properText_iff (e : Failure) :
    failureText e = properText e ↔
      (Failure.tellsLoss e.message = true → e.meansLoss = true ∨ e.kind = "Browser session lost") := by
  rw [failureText_eq, properText]
  cases hmeans : e.meansLoss with
  | true => simp
  | false =>
    cases htells : Failure.tellsLoss e.message with
    | false => simp
    | true => simpa using lost_eq_report_iff e

/-- A target that is not found is recorded as a loss when its description contains one of the texts. -/
theorem failureText_targetNotFound {description : String} (h : Failure.tellsLoss description = true)
    (tried : Nat) (hidden : List String) :
    failureText (.targetNotFound description tried hidden)
      = "Browser session lost: " ++ Failure.targetMessage description hidden := by
  obtain ⟨text, htext, hcontains⟩ := List.any_eq_true.1 h
  have htells : Failure.tellsLoss (Failure.targetMessage description hidden) = true :=
    List.any_eq_true.2 ⟨text, htext,
      Text.contains_append_right (Text.contains_append_left hcontains)⟩
  rw [failureText_eq]
  exact if_pos htells

/-! ## §3 Recorded failures -/

variable {r : Runner} {m m' : Machine} {line : String} {a : Action Handler} {params : List String}
  {e : Failure} {x : Exchange}

/-- What fails in an action is recorded, as a loss of the session exactly when it means one or when its
wording contains one of the texts for it. So the record is as it should be, unless such a text stands in the
wording of a failure that means something else. -/
theorem runOne_error_eq (hasks : Asks r line a params) (hrun : handled m a params = (.error e, m')) :
    ∃ o, r.runOne m line = (.ok o, m') ∧ o.success = false ∧ o.action = a.key ∧
      o.error = (if e.meansLoss || Failure.tellsLoss e.message then "Browser session lost: " ++ e.message
        else e.report) ∧
      (o.error = properText e ↔
        (Failure.tellsLoss e.message = true → e.meansLoss = true ∨ e.kind = "Browser session lost")) :=
  ⟨_, (Recorded.failed hasks hrun).runOne_eq, rfl, rfl, failureText_eq e,
    failureText_eq_properText_iff e⟩

/-- The action that clicks. -/
def clicking : Action Handler := (frozenVocabulary.lookup "click").get (by decide +kernel)

theorem clicking_handler : clicking.handler = click := by rfl

theorem asks_clicking {line target : String} (hcounts : ignorable "#" (Text.trim line) = false)
    (hparse : (parse frozenVocabulary "#" (Text.trim line)).toOption = some ⟨"click", [target]⟩) :
    Asks (Runner.of frozenVocabulary {}) line clicking [target] :=
  asks_of_parse hcounts hparse (Option.some_get _).symm

/-- A browser with one page, on which there are some elements. -/
def showing (elements : List (String × Element)) : Machine where
  disk := { entries := [], current := [], environment := [] }
  config := {}
  world := { pages := [{ name := "main", elements := elements }], context := ["main"] }
  tab := .on "main" true

theorem asks_clickGo : Asks (Runner.of frozenVocabulary {}) "click Go" clicking ["Go"] :=
  asks_clicking (by decide +kernel) (by decide +kernel)

/-- Nothing carries the text. -/
theorem runOne_error_eq_nowhere :
    ∃ o m', handled (showing []) clicking ["Go"] = (.error (.targetNotFound "Go" 23 []), m') ∧
      (Runner.of frozenVocabulary {}).runOne (showing []) "click Go" = (.ok o, m') ∧
      o.error = "TargetNotFoundError: Could not find element matching: Go" := by
  have hresult : (handled (showing []) clicking ["Go"]).1 = .error (.targetNotFound "Go" 23 []) := by
    unfold handled
    rw [clicking_handler]
    rfl
  have hfails : handled (showing []) clicking ["Go"]
      = (.error (.targetNotFound "Go" 23 []), (handled (showing []) clicking ["Go"]).2) :=
    Prod.ext hresult rfl
  obtain ⟨o, hrun, -, -, herror, -⟩ := runOne_error_eq asks_clickGo hfails
  exact ⟨o, _, hfails, hrun, herror.trans (by decide +kernel)⟩

/-- The description of a target that is not there reads like a loss, and is recorded as one. -/
theorem runOne_targetClosed :
    ∃ e o m', Asks (Runner.of frozenVocabulary {}) "click Target closed" clicking ["Target closed"] ∧
      handled (showing []) clicking ["Target closed"] = (.error e, m') ∧ e.meansLoss = false ∧
      (Runner.of frozenVocabulary {}).runOne (showing []) "click Target closed" = (.ok o, m') ∧
      o.error = "Browser session lost: Could not find element matching: Target closed" ∧
      o.error ≠ e.report := by
  have hasks : Asks (Runner.of frozenVocabulary {}) "click Target closed" clicking ["Target closed"] :=
    asks_clicking (by decide +kernel) (by decide +kernel)
  have hresult : (handled (showing []) clicking ["Target closed"]).1
      = .error (.targetNotFound "Target closed" 21 []) := by
    unfold handled
    rw [clicking_handler]
    rfl
  have hfails : handled (showing []) clicking ["Target closed"]
      = (.error (.targetNotFound "Target closed" 21 []),
          (handled (showing []) clicking ["Target closed"]).2) := Prod.ext hresult rfl
  exact ⟨_, _, _, hasks, hfails, rfl, (Recorded.failed hasks hfails).runOne_eq, by decide +kernel,
    by decide +kernel⟩

/-! ## §4 The session is lost -/

/-- When the browser tells of the loss of the session while a built-in action is carried out, this is the
last that is asked, the outcome says that the session is lost, and the browser has seen no request after
it. -/
theorem runOne_stops_at_loss {reading : Registry Handler} {marker : String}
    (hasks : Asks ⟨frozenVocabulary, reading, marker⟩ line a params) (hx : x ∈ exchanges m a params)
    (hloss : x.Loss) :
    ∃ before text m', exchanges m a params = before ++ [x] ∧
      Runner.runOne ⟨frozenVocabulary, reading, marker⟩ m line
        = (.ok { instruction := Text.trim line, success := false,
                 error := "Browser session lost: " ++ text, action := a.key }, m') ∧
      m'.world.log
        = m.world.log ++ (before ++ [x]).filterMap (Exchange.entry? (sync m).tab.current) := by
  obtain ⟨key, -, hlookup⟩ := hasks.request
  obtain ⟨spec, hspec, hhandler⟩ := exists_spec hlookup
  have hstops : (a.handler m.config.toSettings params).Ensures FailStop := by
    rw [hhandler]
    exact failStop_builtIn hspec _ _
  obtain ⟨before, e, hexchanges, hresult, he⟩ :=
    (hstops.run (sync m) (sync m).tab.current).of_mem hx hloss
  have hrun : handled m a params = (.error e, (handled m a params).2) := Prod.ext hresult rfl
  refine ⟨before, e.message, (handled m a params).2, hexchanges, ?_, ?_⟩
  · rw [(Recorded.failed hasks hrun).runOne_eq, failureText_of_lost he]
  · rw [← hexchanges]
    exact Script.run_log _ _ _

/-- An element that the browser has lost. -/
def vanished : Element := { visibilityFailure := some (.browser "Target closed") }

/-- The browser refuses to tell whether the element can be seen. -/
theorem runOne_stops_at_vanished :
    ∃ x text m', exchanges (showing [("Go", vanished)]) clicking ["Go"] = [x] ∧ x.Loss ∧
      (Runner.of frozenVocabulary {}).runOne (showing [("Go", vanished)]) "click Go"
        = (.ok { instruction := "click Go", success := false,
                 error := "Browser session lost: " ++ text, action := "click" }, m') := by
  have hexchanges : exchanges (showing [("Go", vanished)]) clicking ["Go"]
      = [⟨.page (.probe "Go" 300), .ok vanished⟩] := by
    unfold exchanges
    rw [clicking_handler]
    rfl
  have hloss : Exchange.Loss ⟨.page (.probe "Go" 300), .ok vanished⟩ :=
    .unseen rfl rfl (by decide +kernel)
  obtain ⟨-, text, m', -, hrun, -⟩ :=
    runOne_stops_at_loss asks_clickGo (by rw [hexchanges]; exact List.mem_singleton_self _) hloss
  exact ⟨_, text, m', hexchanges, hloss, hrun⟩

end Run
end BrowserScript
