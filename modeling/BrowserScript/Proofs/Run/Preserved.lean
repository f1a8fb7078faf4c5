/-
BrowserScript.Proofs.Run.Preserved — what every step of a run keeps.

A run does four things to the machine: it synchronises the cell of the active page, it lets a script ask
questions, it asks for a pause, and it goes on. `Preserved R` says that each of them keeps a relation between
the machine before and the machine after; then lines and whole runs keep it, whatever they end in.
`PreservedByPause R` leaves the questions out: it is about what a line still does once its action has ended.

* `Preserved.runOne`, `Preserved.run`: from the steps to a line, and from lines to a run.
* `ComesTo r m lines line m₁`: in a run of some lines, one of them starts on the machine `m₁`. What the run
  was before and what it becomes are then both known (`Preserved.before`, `Preserved.after`).
-/
import BrowserScript.Proofs.Run.EveryLine

namespace BrowserScript.Run

open Browser Instruction Vocabulary

/-- A relation between the machine before and the machine after that synchronising and pausing keep. -/
structure PreservedByPause (R : Machine → Machine → Prop) : Prop where
  refl (m : Machine) : R m m
  trans {m₁ m₂ m₃ : Machine} : R m₁ m₂ → R m₂ m₃ → R m₁ m₃
  sleep (m : Machine) (seconds : Number.Binary64) : R m (m.askContext (.sleep seconds)).2
  sync (m : Machine) : R m (sync m)

/-- A relation that every step of a run keeps. -/
structure Preserved (R : Machine → Machine → Prop) : Prop extends PreservedByPause R where
  answer (m : Machine) (page : String) (q : Question) : R m (m.answer page q).2

/-! ## §1 The end of a line -/

namespace PreservedByPause

variable {R : Machine → Machine → Prop} (h : PreservedByPause R)

include h

theorem settleNewPage (m : Machine) : R m (settleNewPage m).2 := by
  unfold Run.settleNewPage
  split
  · exact h.refl m
  · exact h.sync m
  · rename_i seconds _
    have hasked := h.sleep m seconds
    generalize m.askContext (.sleep seconds) = asked at hasked ⊢
    rcases asked with ⟨_ | _, m₁⟩
    · exact hasked
    · exact h.trans hasked (h.sync m₁)

/-- After its action, a line does no more than to pause. -/
theorem perform (m : Machine) (text : String) (a : Action Handler) (params : List String) :
    R (handled m a params).2 (perform (Run.sync m) text a params).2 := by
  rw [perform_eq]
  generalize handled m a params = x
  rcases x with ⟨e | value, m₁⟩
  · exact h.refl m₁
  · dsimp only
    split
    · have hpaused := h.settleNewPage m₁
      generalize Run.settleNewPage m₁ = x at hpaused ⊢
      rcases x with ⟨e | _, m₂⟩
      · exact hpaused
      · exact hpaused
    · exact h.refl m₁

theorem afterAction {r : Runner} {line : String} {a : Action Handler} {params : List String}
    (hasks : Asks r line a params) (m : Machine) : R (handled m a params).2 (r.runOne m line).2 := by
  rw [runOne_of_asks hasks]
  exact h.perform m _ a params

end PreservedByPause

/-! ## §2 Lines and runs -/

/-- In a run of some lines, one of them starts on a machine: the lines before it have been recorded. -/
def ComesTo (r : Runner) (m : Machine) (lines : List String) (line : String) (m₁ : Machine) : Prop :=
  ∃ done rest os, lines = done ++ line :: rest ∧ r.run m done = (.ok os, m₁)

/-- The rest of a run goes on where the first lines ended. -/
theorem run_append {r : Runner} {m m₁ : Machine} {done : List String} {os : List Outcome}
    (hdone : r.run m done = (.ok os, m₁)) (rest : List String) :
    (r.run m (done ++ rest)).2 = (r.run m₁ rest).2 := by
  induction done generalizing m os with
  | nil =>
    cases hdone
    rfl
  | cons line done ih =>
    rcases hline : r.runOne m line with ⟨e | o, m₂⟩
    · rw [run_cons_of_error hline] at hdone
      cases hdone
    · rw [run_cons_of_ok hline] at hdone
      rw [List.cons_append, run_cons_of_ok hline]
      rcases hrest : r.run m₂ done with ⟨e | os', m₃⟩
      · rw [hrest] at hdone
        cases hdone
      · rw [hrest] at hdone
        cases hdone
        exact ih hrest

namespace Preserved

variable {R : Machine → Machine → Prop} (h : Preserved R)

include h

theorem script {α : Type} (m : Machine) (page : String) (s : Script α) : R m (s.run m page).2 := by
  induction s generalizing m with
  | done a => exact h.refl m
  | fail e => exact h.refl m
  | ask q next ih => exact h.trans (h.answer m page q) (ih _ _)

theorem handled (m : Machine) (a : Action Handler) (params : List String) :
    R m (handled m a params).2 :=
  h.trans (h.sync m) (h.script _ _ _)

theorem runOne (r : Runner) (m : Machine) (line : String) : R m (r.runOne m line).2 := by
  unfold Runner.runOne
  dsimp only
  split
  · exact h.refl m
  · split
    · exact h.sync m
    · split
      · exact h.sync m
      · exact h.trans (h.handled m _ _) (h.perform m _ _ _)

theorem run (r : Runner) (m : Machine) (lines : List String) : R m (r.run m lines).2 := by
  induction lines generalizing m with
  | nil => exact h.refl m
  | cons line rest ih =>
    have hfirst := h.runOne r m line
    rcases hline : r.runOne m line with ⟨e | o, m₁⟩
    · rw [hline] at hfirst
      rw [run_cons_of_error hline]
      exact hfirst
    · rw [hline] at hfirst
      rw [run_cons_of_ok hline]
      exact h.trans hfirst (ih m₁)

variable {r : Runner} {m m₁ : Machine} {lines : List String} {line : String}

theorem before (hcomes : ComesTo r m lines line m₁) : R m m₁ := by
  obtain ⟨done, rest, os, rfl, hdone⟩ := hcomes
  have hrun := h.run r m done
  rw [hdone] at hrun
  exact hrun

theorem after (hcomes : ComesTo r m lines line m₁) : R (r.runOne m₁ line).2 (r.run m lines).2 := by
  obtain ⟨done, rest, os, rfl, hdone⟩ := hcomes
  rw [run_append hdone]
  rcases hline : r.runOne m₁ line with ⟨e | o, m₂⟩
  · rw [run_cons_of_error hline]
    exact h.refl m₂
  · rw [run_cons_of_ok hline]
    exact h.run r m₂ rest

end Preserved
end BrowserScript.Run
