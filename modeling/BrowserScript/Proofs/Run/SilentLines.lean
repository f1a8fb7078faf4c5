/-
BrowserScript.Proofs.Run.SilentLines — lines that ask for nothing.

Blank lines, comments and lines that cannot be read carry nothing out. A line that cannot be read still
synchronises the cell of the active page, so it may show another page afterwards. But every line that can be
read synchronises the cell before it does anything else, and doing it twice is doing it once
(`ActivePage.sync_sync`). So two machines that are the same once they are synchronised are the same for all
lines to come.

* `runOne_of_reads`: a line that can be read does the same on machines that are the same once synchronised.
* `runOne_of_not_reads`: any other line leaves a machine that is the same once synchronised.

Main statement: `run_filter_reads`. A run from which all other lines are left out gives the same outcomes to
the lines that can be read, or fails in the same way, and leaves the same browser.
-/
import BrowserScript.Proofs.Browser.NewestPage
import BrowserScript.Proofs.Instruction.LongestPhrase
import BrowserScript.Proofs.Run.EveryLine

namespace BrowserScript.Run

open Browser Instruction Vocabulary

/-! ## §1 Lines that can be read -/

/-- Whether a line asks for something and can be read. -/
def Runner.reads (r : Runner) (line : String) : Bool :=
  !ignorable r.marker line && (parse r.reading r.marker line).isOk

theorem sync_sync (m : Machine) : sync (sync m) = sync m := by
  simp only [sync, ActivePage.sync_sync]

variable {r : Runner} {m n : Machine} {line : String}

/-- A line that can be read begins by synchronising, and nothing that was before that matters. -/
theorem runOne_sync (hreads : r.reads line = true) : r.runOne (sync m) line = r.runOne m line := by
  have hcounts : ignorable r.marker (Text.trim line) = false := by
    rw [ignorable_trim]
    simpa using (Bool.and_eq_true_iff.1 hreads).1
  obtain ⟨request, hparse⟩ : ∃ request, parse r.reading r.marker (Text.trim line) = .ok request := by
    rw [parse_trim]
    have hok := (Bool.and_eq_true_iff.1 hreads).2
    cases hparse : parse r.reading r.marker line with
    | error failure =>
      rw [hparse] at hok
      cases hok
    | ok request => exact ⟨request, rfl⟩
  simp only [Runner.runOne, hcounts, hparse, sync_sync, Bool.false_eq_true, if_false]

theorem runOne_of_reads (hreads : r.reads line = true) (hmn : sync m = sync n) :
    r.runOne m line = r.runOne n line := by
  rw [← runOne_sync hreads, hmn, runOne_sync hreads]

/-- Any other line is recorded, and what comes after it is as if it had not been there. -/
theorem runOne_of_not_reads (hreads : r.reads line = false) :
    ∃ o m', r.runOne m line = (.ok o, m') ∧ sync m' = sync m := by
  rcases Bool.and_eq_false_iff.1 hreads with hskip | hfails
  · have hskip : ignorable r.marker (Text.trim line) = true := by
      rw [ignorable_trim]
      simpa using hskip
    exact ⟨_, _, (Recorded.skipped hskip).runOne_eq, rfl⟩
  · cases hskip : ignorable r.marker (Text.trim line) with
    | true => exact ⟨_, _, (Recorded.skipped hskip).runOne_eq, rfl⟩
    | false =>
      cases hparse : parse r.reading r.marker (Text.trim line) with
      | ok request =>
        rw [parse_trim] at hparse
        rw [hparse] at hfails
        cases hfails
      | error failure => exact ⟨_, _, (Recorded.unreadable hskip hparse).runOne_eq, sync_sync m⟩

/-! ## §2 Runs without the other lines -/

/-- The outcomes of the lines that can be read. -/
def Runner.outcomesRead (r : Runner) (lines : List String) (os : List Outcome) : List Outcome :=
  ((lines.zip os).filter (fun x => r.reads x.1)).map (·.2)

/-- Two runs on machines that are the same once synchronised, one of them without the other lines. -/
theorem run_filter_of_sync_eq (r : Runner) {m n : Machine} (hmn : sync m = sync n) (lines : List String) :
    (r.run n (lines.filter r.reads)).1 = (r.run m lines).1.map (r.outcomesRead lines) ∧
      sync (r.run n (lines.filter r.reads)).2 = sync (r.run m lines).2 := by
  induction lines generalizing m n with
  | nil => exact ⟨rfl, hmn.symm⟩
  | cons line rest ih =>
    cases hreads : r.reads line with
    | true =>
      have hsame := runOne_of_reads hreads hmn
      rw [List.filter_cons_of_pos hreads]
      rcases hline : r.runOne m line with ⟨e | o, m₁⟩
      · rw [run_cons_of_error hline, run_cons_of_error (hsame.symm.trans hline)]
        exact ⟨rfl, rfl⟩
      · rw [run_cons_of_ok hline, run_cons_of_ok (hsame.symm.trans hline)]
        obtain ⟨houtcomes, hend⟩ := ih (m := m₁) (n := m₁) rfl
        refine ⟨?_, hend⟩
        dsimp only
        rw [houtcomes]
        rcases (r.run m₁ rest).1 with e | os
        · rfl
        · simp [Except.map, Runner.outcomesRead, hreads]
    | false =>
      obtain ⟨o, m₁, hline, hm₁⟩ := runOne_of_not_reads (m := m) hreads
      obtain ⟨houtcomes, hend⟩ := ih (hm₁.trans hmn)
      rw [List.filter_cons_of_neg (by simp [hreads]), run_cons_of_ok hline]
      refine ⟨houtcomes.trans ?_, hend⟩
      dsimp only
      rcases (r.run m₁ rest).1 with e | os
      · rfl
      · simp [Except.map, Runner.outcomesRead, hreads]

/-- Leaving out the lines that ask for nothing or cannot be read changes nothing: the other lines have the
same outcomes, or the run fails in the same way; the browser has the same log and is in the same state, and so
is the disk; and the next line would act on the same page. -/
theorem run_filter_reads (r : Runner) (m : Machine) (lines : List String) :
    (r.run m (lines.filter r.reads)).1 = (r.run m lines).1.map (r.outcomesRead lines) ∧
      (r.run m (lines.filter r.reads)).2.world = (r.run m lines).2.world ∧
      (r.run m (lines.filter r.reads)).2.disk = (r.run m lines).2.disk ∧
      (sync (r.run m (lines.filter r.reads)).2).tab = (sync (r.run m lines).2).tab := by
  obtain ⟨houtcomes, hend⟩ := run_filter_of_sync_eq r (rfl : sync m = sync m) lines
  have hworld := congrArg Machine.world hend
  have hdisk := congrArg Machine.disk hend
  exact ⟨houtcomes, hworld, hdisk, congrArg Machine.tab hend⟩

end BrowserScript.Run
