/-
BrowserScript.Proofs.SignIn.Navigation — whether an attempt says rightly that the page was left.

Main statement: `navigated_iff`. After the form was sent, the wait compares the address of the page with
the one that it had at the form, before any site was tried there. What came earlier in the attempt is
therefore never taken for the outcome of sending the form, except where a site was tried at the form, took
the page to another address and was given up there: then the page is said to have been left although it
stayed where it was filled in. `navigated_twoStep` is such an attempt.
-/
import BrowserScript.Proofs.SignIn.FormRoute

namespace BrowserScript.SignIn

open Browser

/-! ## §1 The wait -/

/-- The browser has no failure in store for a wait until the page leaves an address. -/
def CanWait (p : Patience) (before : String) (m : Machine) (page : String) : Prop :=
  planned (m.world.page page).plan (Call.waitForUrlChange before p.submit).planKeys = none

/-- The wait is answered when it may be made and the page has left the address. -/
theorem waitForUrlChange_answer (m : Machine) (page before : String) (p : Patience) :
    (m.answer page (.page (.waitForUrlChange before p.submit))).1 = .ok () ↔
      CanWait p before m page ∧ address m page ≠ before := by
  have hreply : (m.answer page (.page (.waitForUrlChange before p.submit))).1
      = (m.world.ask page (.waitForUrlChange before p.submit)).1 := rfl
  rw [hreply, World.ask_reply, CanWait]
  cases planned (m.world.page page).plan (Call.waitForUrlChange before p.submit).planKeys with
  | some failure => simp
  | none =>
    show (if (m.world.page page).url != before then Except.ok () else .error _) = .ok () ↔ _
    by_cases hurl : (m.world.page page).url = before
    · simp [address, hurl]
    · simp [address, hurl]

/-- A wait that ends tells whether it was answered. -/
theorem waitForNavigation_run {p : Patience} {before page : String} {m m' : Machine} {left : Bool}
    (h : (waitForNavigation p before).run m page = (.ok left, m')) :
    left = true ↔ CanWait p before m page ∧ address m page ≠ before := by
  unfold waitForNavigation at h
  obtain ⟨left', m₁, hrescue, hrest⟩ := Script.run_bind_eq_ok.1 h
  have hleft : left' = left := by
    cases left' with
    | true =>
      obtain ⟨_, m₂, -, hpure⟩ := Script.run_bind_eq_ok.1 hrest
      cases hpure
      rfl
    | false =>
      cases hrest
      rfl
  obtain ⟨result, m₂, hwait, hhandle⟩ := Script.run_bind_eq_ok.1 hrescue
  rw [Script.run_attempt, Script.run_bind, Script.page, Script.run_query] at hwait
  rw [← hleft, ← waitForUrlChange_answer]
  rcases hanswer : m.answer page (.page (.waitForUrlChange before p.submit)) with ⟨e | _, m₃⟩
  · rw [hanswer] at hwait
    cases hwait
    cases e with
    | timeout _ =>
      cases hhandle
      exact ⟨nofun, nofun⟩
    | _ => cases hhandle
  · rw [hanswer] at hwait
    cases hwait
    cases hhandle
    exact ⟨fun _ => rfl, fun _ => rfl⟩

/-! ## §2 What is said about the page -/

/-- An attempt that succeeds with the strategy for every site says that the page was left exactly when the
wait after sending could be made and found the page at another address than that of the form, before any
site was tried there (`r.atForm`). This is right about what sending the form has done, if the fields were
looked for at that same address (`r.atFields`). Where they were not, a site tried at the form has taken
the page elsewhere, and what is said is wrong exactly when sending the form left the page there. -/
theorem navigated_iff {p : Patience} {c : Credentials} {requested : Option Intent} {m m' : Machine}
    {page : String} {a : Attempt}
    (h : (authenticate p c requested).run m page = (.ok (.ok (), a), m'))
    (hstrategy : a.strategy = genericStrategy) :
    ∃ (r : FormRoute p c requested m page) (filled sent : Machine),
      (fillForm p c r.intent).run r.atFields page = (.ok (), filled) ∧
      (submitForm p r.intent).run filled page = (.ok a.submittedVia, sent) ∧
      (a.navigated = true ↔ CanWait p (address r.atForm page) sent page ∧
        address sent page ≠ address r.atForm page) ∧
      ((a.navigated = true → address sent page ≠ address r.atFields page) ↔
        ¬ (CanWait p (address r.atForm page) sent page ∧
          address r.atFields page ≠ address r.atForm page ∧
          address sent page = address r.atFields page)) ∧
      (requested ≠ none → r.atFields = r.atForm) := by
  obtain ⟨r, filled, sent, hfill, hsubmit, hwait⟩ := exists_formRoute h hstrategy
  have hnavigated := waitForNavigation_run hwait
  refine ⟨r, filled, sent, hfill, hsubmit, hnavigated, ?_, ?_⟩
  · rw [hnavigated]
    constructor
    · rintro hright ⟨hcan, hmoved, hstayed⟩
      exact hright ⟨hcan, hstayed ▸ hmoved⟩ hstayed
    · rintro hexcept ⟨hcan, hleft⟩ hstayed
      exact hexcept ⟨hcan, hstayed ▸ hleft, hstayed⟩
  · exact r.atFields_eq

set_option maxRecDepth 100000 in
theorem twoStep_succeeds :
    ∃ a m', (authenticate {} someCredentials none).run twoStepMachine "main" = (.ok (.ok (), a), m') ∧
      a.strategy = genericStrategy ∧ a.navigated = true := by
  have hsucceeds : ((authenticate {} someCredentials none).run twoStepMachine "main").1.toOption.any
      (fun o => o.1.isOk && decide (o.2.strategy = genericStrategy ∧ o.2.navigated = true)) = true := by
    decide +kernel
  rcases hrun : (authenticate {} someCredentials none).run twoStepMachine "main"
    with ⟨e | ⟨e | _, a⟩, m'⟩
  · rw [hrun] at hsucceeds
    cases hsucceeds
  · rw [hrun] at hsucceeds
    cases hsucceeds
  · rw [hrun] at hsucceeds
    exact ⟨a, m', rfl, of_decide_eq_true hsucceeds⟩

theorem navigated_iff_twoStep :
    ∃ (a : Attempt) (r : FormRoute {} someCredentials none twoStepMachine "main") (sent : Machine),
      a.strategy = genericStrategy ∧ a.navigated = true ∧
      CanWait {} (address r.atForm "main") sent "main" ∧
      address sent "main" ≠ address r.atForm "main" := by
  obtain ⟨a, m', hrun, hstrategy, hnavigated⟩ := twoStep_succeeds
  obtain ⟨r, filled, sent, -, -, hiff, -⟩ := navigated_iff hrun hstrategy
  obtain ⟨hcan, hleft⟩ := hiff.1 hnavigated
  exact ⟨a, r, sent, hstrategy, hnavigated, hcan, hleft⟩

/-- The address at which the form is filled in, and the one after it was sent. -/
def filledAndSent {p : Patience} {c : Credentials} {requested : Option Intent} {m : Machine}
    {page : String} (r : FormRoute p c requested m page) : String × String :=
  let filled := ((fillForm p c r.intent).run r.atFields page).2
  let sent := ((submitForm p r.intent).run filled page).2
  (address r.atFields page, address sent page)

set_option maxRecDepth 100000 in
theorem twoStep_stays :
    (formRoute? {} someCredentials none twoStepMachine "main").any (fun r =>
      (filledAndSent r).1 == (filledAndSent r).2) = true := by
  decide +kernel

/-- On the page of a known site that asks for the password in a second step, the first step leads on, and
sending the form changes nothing; yet the attempt says that the page was left. -/
theorem navigated_twoStep :
    ∃ (a : Attempt) (m' : Machine) (r : FormRoute {} someCredentials none twoStepMachine "main")
      (filled sent : Machine),
      (authenticate {} someCredentials none).run twoStepMachine "main" = (.ok (.ok (), a), m') ∧
      a.strategy = genericStrategy ∧ a.navigated = true ∧
      (fillForm {} someCredentials r.intent).run r.atFields "main" = (.ok (), filled) ∧
      (submitForm {} r.intent).run filled "main" = (.ok a.submittedVia, sent) ∧
      address sent "main" = address r.atFields "main" := by
  obtain ⟨a, m', hrun, hstrategy, hnavigated⟩ := twoStep_succeeds
  obtain ⟨r, filled, sent, hfill, hsubmit, -⟩ := exists_formRoute hrun hstrategy
  obtain ⟨r', -, hsame⟩ := Option.any_eq_true _ _ |>.1 twoStep_stays
  rw [r'.eq_of_run r, beq_iff_eq] at hsame
  refine ⟨a, m', r, filled, sent, hrun, hstrategy, hnavigated, hfill, hsubmit, ?_⟩
  simp only [filledAndSent, hfill, hsubmit] at hsame
  exact hsame.symm

end BrowserScript.SignIn
