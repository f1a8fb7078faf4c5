/-
BrowserScript.Proofs.Browser.NewestPage — which page is active, and when that changes.

Announcements only wait in the cell of the active page. What the cell shows changes when it is synchronised,
and at no other time.

* `ActivePage.sync_current`: a cell that listens to a context with an open page shows the newest of them.
* `ActivePage.sync_sync`: synchronising once more changes nothing.
* `Machine.answer_tab`: an answer may announce pages to the cell, and that is all.
* `Script.run_current`: while a script runs the cell shows one page, whatever its requests open, announce,
  close or drop.
-/
import BrowserScript.Browser.Machine

namespace BrowserScript.Browser

/-! ## §1 The cell -/

namespace ActivePage

theorem hear_current (a : ActivePage) (pages : List String) : (a.hear pages).current = a.current := by
  have hnotify : (pages.foldl notify a).current = a.current := by
    induction pages generalizing a with
    | nil => rfl
    | cons page rest ih => exact ih (a.notify page)
  unfold hear
  split
  · exact hnotify
  · rfl

theorem hear_attached (a : ActivePage) (pages : List String) : (a.hear pages).attached = a.attached := by
  have hnotify : (pages.foldl notify a).attached = a.attached := by
    induction pages generalizing a with
    | nil => rfl
    | cons page rest ih => exact ih (a.notify page)
  unfold hear
  split
  · exact hnotify
  · rfl

/-- A cell that listens shows the newest open page of the context, whatever was announced. -/
theorem sync_current {a : ActivePage} {w : World} {page : String} (hattached : a.attached = true)
    (hnewest : w.openPages.getLast? = some page) : (a.sync w).current = page := by
  simp only [sync, hattached, if_true, hnewest, Option.getD_some]

/-- Nothing waits after the first time, and the newest open page is shown already. -/
theorem sync_sync (a : ActivePage) (w : World) : (a.sync w).sync w = a.sync w := by
  cases hattached : a.attached with
  | false => simp only [sync, hattached, lastOpen, Bool.false_eq_true, if_false]
  | true =>
    cases hnewest : w.openPages.getLast? with
    | none => simp only [sync, hattached, hnewest, lastOpen, if_true, Option.getD_none]
    | some page => simp only [sync, hattached, hnewest, if_true, Option.getD_some]

end ActivePage

/-! ## §2 The cell while a script runs -/

namespace Machine

variable (m : Machine) (page : String)

/-- An answer leaves the cell as it is, but for announcements. -/
theorem answer_tab (q : Question) : ∃ announced, (m.answer page q).2.tab = m.tab.hear announced := by
  have hquiet : m.tab = m.tab.hear [] := by
    unfold ActivePage.hear
    split <;> rfl
  cases q with
  | page call => exact ⟨_, rfl⟩
  | addCookies added => exact ⟨_, rfl⟩
  | cookies =>
    refine ⟨(m.world.askContext .cookies).2.2, ?_⟩
    simp only [answer, askContext]
    rcases m.world.askContext .cookies with ⟨_ | _, w, announced⟩ <;> rfl
  | makeDirs path =>
    refine ⟨[], ?_⟩
    simp only [answer]
    split <;> exact hquiet
  | expandHome path =>
    refine ⟨[], ?_⟩
    simp only [answer]
    split <;> exact hquiet
  | _ => exact ⟨[], hquiet⟩

theorem answer_current (q : Question) : (m.answer page q).2.tab.current = m.tab.current := by
  obtain ⟨announced, htab⟩ := m.answer_tab page q
  rw [htab, ActivePage.hear_current]

theorem answer_attached (q : Question) : (m.answer page q).2.tab.attached = m.tab.attached := by
  obtain ⟨announced, htab⟩ := m.answer_tab page q
  rw [htab, ActivePage.hear_attached]

end Machine

theorem Script.run_current {α : Type} (m : Machine) (page : String) (s : Script α) :
    (s.run m page).2.tab.current = m.tab.current := by
  induction s generalizing m with
  | done a => rfl
  | fail e => rfl
  | ask q next ih => exact (ih _ _).trans (m.answer_current page q)

end BrowserScript.Browser
