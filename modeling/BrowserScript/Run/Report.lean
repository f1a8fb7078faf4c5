/-
BrowserScript.Run.Report — the report of a run.

* `Report` is a run with its outcomes.
* `Report.toValue` is its form in result files.
* `Report.markdown` is the written report: header, summary, table of outcomes, failures and
  screenshots.
* `cell` writes a text into a cell of a table.
-/
import BrowserScript.Failure
import BrowserScript.Run.Outcome

namespace BrowserScript.Run

open Number

/-- A duration in seconds, whole or not. -/
inductive Seconds where
  | whole (n : Int)
  | fraction (x : Binary64)
  deriving Repr, DecidableEq

namespace Seconds

/-- A duration with one decimal place. -/
def tenths : Seconds → Except Fault String
  | .fraction x => .ok (x.fixedText 1)
  | .whole n =>
    match Binary64.ofInt? n with
    | some x => .ok (x.fixedText 1)
    | none => .error .wholeTooLarge

/-- A duration rounded to milliseconds. -/
def rounded : Seconds → Value
  | .fraction x => .float (x.roundPlaces 3)
  | .whole n => .int n

end Seconds

/-- A run with its outcomes. -/
structure Report where
  runId : String
  instructionsFile : String
  browser : String
  viewport : Value × Value
  startTime : String
  endTime : String
  duration : Seconds
  outcomes : List Outcome
  deriving Repr

/-- A text in a cell of a table: pipes are escaped, line feeds become blanks. -/
def cell (s : String) : String :=
  String.ofList (Text.replaceChar '\n' [' '] (Text.replaceChar '|' ['\\', '|'] s.toList))

namespace Report

/-- The outcomes of lines that asked for something. -/
def executed (r : Report) : List Outcome := r.outcomes.filter (fun o => o.action != "skip")

/-- Whether every line succeeded. -/
def passed (r : Report) : Bool := r.outcomes.all (·.success)

/-- A report in a result file. -/
def toValue (r : Report) : Value :=
  .record [
    ("run_id", .text r.runId),
    ("instructions_file", .text r.instructionsFile),
    ("browser", .text r.browser),
    ("viewport", .list [r.viewport.1, r.viewport.2]),
    ("start_time", .text r.startTime),
    ("end_time", .text r.endTime),
    ("duration_seconds", r.duration.rounded),
    ("passed", .bool r.passed),
    ("results", .list (r.outcomes.map Outcome.toValue))]

/-- A report in a result file, unless something in it cannot be written. -/
def document (r : Report) : Except Fault Value :=
  match r.toValue.checkJson with
  | .ok () => .ok r.toValue
  | .error fault => .error (.ofJson fault)

/-- The word for a verdict. -/
def verdict (passed : Bool) : String := if passed then "PASS" else "FAIL"

/-- The number of executed lines that succeeded. -/
def passedCount (r : Report) : Nat := (r.executed.filter (·.success)).length

/-- A natural number as text. -/
def count (n : Nat) : String := intText (Int.ofNat n)

/-- The outcomes with the numbers of their lines. -/
def numbered (r : Report) : List (Nat × Outcome) := r.outcomes.zipIdx.map (fun x => (x.2 + 1, x.1))

/-- The header of a report. -/
def header (r : Report) : List String :=
  ["# pagescript Report: " ++ r.instructionsFile,
    "",
    "**Run ID:** " ++ r.runId,
    "**Browser:** " ++ r.browser,
    "**Viewport:** " ++ r.viewport.1.plain ++ "x" ++ r.viewport.2.plain,
    "**Date:** " ++ r.startTime,
    "**Verdict:** " ++ verdict r.passed]

/-- The header of a report whose size of the window can be written. -/
def headerLines (r : Report) : Except Fault (List String) :=
  if r.viewport.1.isWritable && r.viewport.2.isWritable then .ok r.header else .error .unwritableNumber

/-- The summary of a report. -/
def summaryLines (r : Report) : Except Fault (List String) :=
  r.duration.tenths.map (fun seconds =>
    ["## Summary",
      "- Instructions: " ++ count r.passedCount ++ "/" ++ count r.executed.length ++ " passed",
      "- Skipped (blank/comment): " ++ count (r.outcomes.length - r.executed.length),
      "- Duration: " ++ seconds ++ "s"])

/-- The note on an outcome. -/
def note (o : Outcome) : String := Text.clip (if o.success then summary o.result else o.error)

/-- The row of an outcome. -/
def row (number : Nat) (o : Outcome) : String :=
  "| " ++ count number ++ " | " ++ cell o.instruction ++ " | " ++
    (if o.action == "" then "-" else o.action) ++ " | " ++ verdict o.success ++ " | " ++
    intText o.duration ++ "ms | " ++ cell (note o) ++ " |"

/-- The rows of the executed outcomes. -/
def rows (r : Report) : List String :=
  (r.numbered.filter (fun x => x.2.action != "skip")).map (fun x => row x.1 x.2)

/-- The table of outcomes. -/
def table (r : Report) : List String :=
  ["## Instruction Results",
    "| # | Instruction | Action | Result | Duration | Notes |",
    "|---|-------------|--------|--------|----------|-------|"] ++ r.rows

/-- The failed outcomes in full. -/
def failures (r : Report) : List String :=
  match r.numbered.filter (fun x => !x.2.success) with
  | [] => ["## Failures", "", "No failures."]
  | failed =>
    ["## Failures", ""] ++ failed.map (fun x =>
      "- **" ++ count x.1 ++ "** \x60" ++ x.2.instruction ++ "\x60: " ++ x.2.error)

/-- The path of the screenshot of an outcome, if it took one. -/
def screenshot? (o : Outcome) : Except Fault (Option String) :=
  if o.success && o.action == "screenshot" then
    match o.result with
    | .dict entries =>
      match Value.lookup (.text "path") entries with
      | some path => .ok (some path.plain)
      | none => .error (.missingEntry "path")
    | _ => .ok none
  else .ok none

/-- The screenshots of a run. -/
def screenshots (r : Report) : Except Fault (List String) :=
  (r.outcomes.mapM screenshot?).map (fun found =>
    match found.filterMap id with
    | [] => ["## Screenshots", "", "No screenshots captured."]
    | paths => ["## Screenshots", ""] ++ paths.map (fun p => "- \x60" ++ p ++ "\x60"))

/-- Lines of a section. -/
def sectionText (lines : List String) : String := Text.joined "\n" lines

/-- The written report. -/
def markdown (r : Report) : Except Fault String := do
  let header ← r.headerLines
  let summary ← r.summaryLines
  let shots ← r.screenshots
  return Text.joined "\n\n"
    ([header, summary, r.table, r.failures, shots].map sectionText)

end Report
end BrowserScript.Run
