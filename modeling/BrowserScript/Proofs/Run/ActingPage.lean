/-
BrowserScript.Proofs.Run.ActingPage — on which page an instruction acts.

A line synchronises the cell of the active page, and then its action is carried out on the page that the cell
shows. Pages may open and close at any time after that, in the action itself or in the pause after it. The
action hears of it as late as the next line.

* `handled_log`: an action writes nothing into the log but its own requests, and those to pages are all on
  the page on which it started.
* `quiet_pause`: the pause after an action makes no request to a page.
* `preserved_attached`, `preserved_log`: over a whole run, a cell that listens goes on listening, and the log
  only grows.

Main statement: `run_acts_on_newest_page`. All requests to pages that a line of a run makes are on one page,
which is the newest open page of the context if there is one. `run_acts_on_popup` is a line that acts on a
page that the line before it has opened.
-/
import BrowserScript.Proofs.Browser.NewestPage
import BrowserScript.Proofs.Browser.Transcript
import BrowserScript.Proofs.Run.LostSession
import BrowserScript.Proofs.Run.Preserved

namespace BrowserScript.Run

open Browser Instruction Vocabulary

/-! ## §1 The requests of an action -/

/-- Requests to no other page than this one. -/
def OnPage (page : String) (entries : List Entry) : Prop :=
  ∀ name call, Entry.page name call ∈ entries → name = page

theorem OnPage.append {page : String} {l₁ l₂ : List Entry} (h₁ : OnPage page l₁) (h₂ : OnPage page l₂) :
    OnPage page (l₁ ++ l₂) := by
  intro name call hmem
  rcases List.mem_append.1 hmem with hmem | hmem
  · exact h₁ name call hmem
  · exact h₂ name call hmem

theorem onPage_entries (page : String) (t : List Exchange) :
    OnPage page (t.filterMap (Exchange.entry? page)) := by
  intro name call hmem
  obtain ⟨⟨q, reply⟩, -, hentry⟩ := List.mem_filterMap.1 hmem
  cases q <;> cases hentry
  rfl

/-- An action writes its requests into the log, and those to pages are on the page that it started on. -/
theorem handled_log (m : Machine) (a : Action Handler) (params : List String) :
    ∃ own, (handled m a params).2.world.log = m.world.log ++ own ∧ OnPage (sync m).tab.current own :=
  ⟨_, Script.run_log _ _ _, onPage_entries _ _⟩

/-- While an action is carried out, the cell goes on showing its page. -/
theorem handled_current (m : Machine) (a : Action Handler) (params : List String) :
    (handled m a params).2.tab.current = (sync m).tab.current :=
  Script.run_current _ _ _

/-! ## §2 The pause and the run -/

/-- More requests in the log, none of them to a page. -/
def Quietly (m m' : Machine) : Prop :=
  ∃ added, m'.world.log = m.world.log ++ added ∧ ∀ name call, Entry.page name call ∉ added

/-- Pausing and synchronising ask nothing of pages. -/
theorem quiet_pause : PreservedByPause Quietly where
  refl _ := ⟨[], (List.append_nil _).symm, fun _ _ => List.not_mem_nil⟩
  trans := by
    rintro m₁ m₂ m₃ ⟨l₁, hlog₁, hquiet₁⟩ ⟨l₂, hlog₂, hquiet₂⟩
    refine ⟨l₁ ++ l₂, by rw [hlog₂, hlog₁, List.append_assoc], ?_⟩
    intro name call hmem
    rcases List.mem_append.1 hmem with hmem | hmem
    · exact hquiet₁ name call hmem
    · exact hquiet₂ name call hmem
  sleep m seconds := ⟨[.context (.sleep seconds)], World.askContext_log _ _, by simp⟩
  sync _ := ⟨[], (List.append_nil _).symm, fun _ _ => List.not_mem_nil⟩

/-- A cell that listens goes on listening. -/
theorem preserved_attached :
    Preserved (fun m m' => m'.tab.attached = m.tab.attached) where
  refl _ := rfl
  trans h h' := h'.trans h
  sleep m _ := m.tab.hear_attached _
  sync _ := rfl
  answer m page q := m.answer_attached page q

/-- What is in the log stays there. -/
theorem preserved_log : Preserved (fun m m' => m.world.log <+: m'.world.log) where
  refl _ := List.prefix_refl _
  trans h h' := h.trans h'
  sleep m seconds := ⟨_, (World.askContext_log m.world (.sleep seconds)).symm⟩
  sync _ := List.prefix_refl _
  answer m page q := ⟨_, (m.answer_log page q).symm⟩

/-! ## §3 Lines of a run -/

/-- In a run whose cell listens to the context, let a line ask for an action. What it adds to the log are the
requests of the action and after them those of the pause. The ones to pages are all on the page that the cell
shows when the action starts and as long as it is carried out; this is the newest open page of the context,
if the context holds an open page then. -/
theorem run_acts_on_newest_page {r : Runner} {m m₁ : Machine} {lines : List String} {line : String}
    {a : Action Handler} {params : List String} (hattached : m.tab.attached = true)
    (hcomes : ComesTo r m lines line m₁) (hasks : Asks r line a params) :
    ∃ own pause,
      (handled m₁ a params).2.world.log = m₁.world.log ++ own ∧
      (r.runOne m₁ line).2.world.log = m₁.world.log ++ own ++ pause ∧
      (r.runOne m₁ line).2.world.log <+: (r.run m lines).2.world.log ∧
      OnPage (sync m₁).tab.current own ∧ (∀ name call, Entry.page name call ∉ pause) ∧
      (handled m₁ a params).2.tab.current = (sync m₁).tab.current ∧
      ∀ newest, m₁.world.openPages.getLast? = some newest → (sync m₁).tab.current = newest := by
  obtain ⟨own, hown, hpage⟩ := handled_log m₁ a params
  obtain ⟨pause, hpause, hquiet⟩ := quiet_pause.afterAction hasks m₁
  have hlistens : m₁.tab.attached = true := (preserved_attached.before hcomes).trans hattached
  refine ⟨own, pause, hown, ?_, preserved_log.after hcomes, hpage, hquiet, handled_current _ _ _, ?_⟩
  · rw [hpause, hown]
  · exact fun newest hnewest => ActivePage.sync_current hlistens hnewest

/-- A browser in which a click opens a second page without announcing it, and closes the first. -/
def springing : Machine where
  disk := { entries := [], current := [], environment := [] }
  config := {}
  world :=
    { pages :=
        [{ name := "main", elements := [("Go", {})]
           onClick := [("Go", [.openPage (some "popup") false, .close none])] },
          { name := "popup", elements := [("Go", {})] }]
      context := ["main"] }
  tab := .on "main" true

/-- The browser after this click and the pause. -/
def sprung : Machine := ((Runner.of frozenVocabulary {}).runOne springing "click Go").2

theorem runOne_springing :
    ((Runner.of frozenVocabulary {}).runOne springing "click Go").1.isOk = true ∧
      sprung.world.openPages.getLast? = some "popup" := by
  unfold sprung
  rw [runOne_of_asks asks_clickGo]
  decide +kernel

theorem comesTo_sprung :
    ComesTo (Runner.of frozenVocabulary {}) springing ["click Go", "click Go"] "click Go" sprung := by
  have hok := runOne_springing.1
  unfold sprung
  rcases hline : (Runner.of frozenVocabulary {}).runOne springing "click Go" with ⟨e | o, m₁⟩
  · rw [hline] at hok
    cases hok
  · exact ⟨["click Go"], [], [o], rfl, by simp only [hline, Runner.run]⟩

/-- The same line twice: the second time it acts on the page that the first click has opened. -/
theorem run_acts_on_popup :
    springing.tab.attached = true ∧
      ComesTo (Runner.of frozenVocabulary {}) springing ["click Go", "click Go"] "click Go" sprung ∧
      Asks (Runner.of frozenVocabulary {}) "click Go" clicking ["Go"] ∧
      ∃ own pause,
        ((Runner.of frozenVocabulary {}).runOne sprung "click Go").2.world.log
          = sprung.world.log ++ own ++ pause ∧
        OnPage "popup" own ∧ ∀ name call, Entry.page name call ∉ pause := by
  refine ⟨rfl, comesTo_sprung, asks_clickGo, ?_⟩
  obtain ⟨own, pause, -, hlog, -, hpage, hquiet, -, hnewest⟩ :=
    run_acts_on_newest_page (m := springing) rfl comesTo_sprung asks_clickGo
  rw [hnewest "popup" runOne_springing.2] at hpage
  exact ⟨own, pause, hlog, hpage, hquiet⟩

end BrowserScript.Run
