/-
BrowserScript.Proofs.Target.FirstShown — which selector a description stands for.

On a page that answers plainly, with nothing planned and no element that cannot be asked whether it can be
seen, a search never hears a refusal and comes to the first selector that shows an element.

* `Page.shows`, `Page.hides`: a selector finds an element that can be seen, or one that cannot.
* `Plain.finding_eq`: what is found on such a page.
* `firstShown`: the selector of a description, in the order of its candidates.

Main statement: `resolveTarget_plain`. A description is resolved to its first selector that shows an element;
without one the failure counts all candidates and lists the hidden ones in order.
-/
import BrowserScript.Proofs.Target.Findings

namespace BrowserScript

/-! ## §1 Plain pages -/

namespace Browser.Page

/-- Whether a selector finds an element that can be seen. -/
def shows (p : Page) (selector : String) : Bool := (p.element? selector).any (·.visible.truthy)

/-- Whether a selector finds an element that cannot be seen. -/
def hides (p : Page) (selector : String) : Bool := (p.element? selector).any (!·.visible.truthy)

/-- A page that answers plainly: no failures are planned on it, and all its elements can be asked whether they
can be seen. -/
structure Plain (p : Page) : Prop where
  plan : p.plan = []
  elements : ∀ x ∈ p.elements, x.2.visibilityFailure = none

namespace Plain

variable {p : Page}

theorem visible (h : p.Plain) {selector : String} {e : Element} (he : p.element? selector = some e) :
    e.visibilityFailure = none := by
  obtain ⟨x, hx, rfl⟩ := exists_mem_of_lookupText he
  exact h.elements x hx

theorem unplanned (h : p.Plain) (keys : List String) : planned p.plan keys = none := by
  rw [h.plan]
  simp [planned, lookupText]

theorem refusesOnly (h : p.Plain) (timeout : Int) (selector : String) : p.RefusesOnly timeout selector where
  probe f hf := by simp [h.unplanned] at hf
  shown e f he hf := by simp [h.visible he] at hf

/-- A plain page has an element under a selector or it has none. -/
theorem finding_eq (h : p.Plain) (timeout : Int) (selector : String) :
    p.finding timeout selector = match p.element? selector with
      | none => .absent
      | some e => if e.visible.truthy then .shown e else .hidden e := by
  unfold finding
  rw [h.unplanned]
  cases he : p.element? selector with
  | none => rfl
  | some e =>
    dsimp only
    rw [h.visible he]

theorem passes_finding (h : p.Plain) (timeout : Int) (selector : String) :
    (p.finding timeout selector).passes (fun _ => true) = !p.shows selector := by
  rw [h.finding_eq, shows]
  cases p.element? selector with
  | none => rfl
  | some e => cases hvisible : e.visible.truthy <;> simp [Finding.passes, hvisible]

theorem isHidden_finding (h : p.Plain) (timeout : Int) (selector : String) :
    (p.finding timeout selector).isHidden = p.hides selector := by
  rw [h.finding_eq, hides]
  cases p.element? selector with
  | none => rfl
  | some e => cases hvisible : e.visible.truthy <;> simp [Finding.isHidden, hvisible]

theorem finding_ne_lost (h : p.Plain) (timeout : Int) (selector text : String) :
    p.finding timeout selector ≠ .lost text := by
  rw [h.finding_eq]
  cases p.element? selector with
  | none => nofun
  | some e => cases hvisible : e.visible.truthy <;> simp [hvisible]

end Plain

end Browser.Page

namespace Target

open Browser

/-! ## §2 The first one that shows an element -/

variable {m : Machine} {page : String} {p : Page} (timeout : Int)

/-- The selector that a description stands for on a page: the first of its candidates that shows an
element. -/
def firstShown (p : Page) (description : String) : Option String := (candidates description none).find? p.shows

/-- The failure of a description that stands for nothing on a page: it counts the candidates and lists those
that hide an element. -/
def notShown (p : Page) (description : String) : Failure :=
  .targetNotFound description (candidates description none).length
    ((candidates description none).filter p.hides)

/-- A description is resolved to the first selector that shows an element, by requests that only read. -/
theorem resolveTarget_plain (hp : p.Plain) (hm : m.world.page page = p) (description : String) :
    ∃ log, (resolveTarget timeout description none).run m page = (match firstShown p description with
      | some selector => .ok selector
      | none => .error (notShown p description), m.withLog log) := by
  obtain ⟨probed, result, htried⟩ :=
    exists_tried (p.finding timeout) (fun _ => true) (candidates description none)
  have hrun := run_resolve_of_tried hm (fun s _ => hp.refusesOnly timeout s) htried
  refine ⟨m.world.log ++ probed.map (fun selector => .page page (.probe selector timeout)), ?_⟩
  rw [resolveTarget, Script.run_bind, hrun, firstShown]
  cases htried with
  | @taken before after selector e hsplit hbefore hshown =>
    have hfirst : (candidates description none).find? p.shows = some selector := by
      refine List.find?_eq_some_iff_append.2 ⟨?_, before, after, hsplit, fun s hs => ?_⟩
      · have hstops := hp.passes_finding timeout selector
        simpa [hshown, Finding.passes] using hstops.symm
      · rw [← hp.passes_finding timeout, hbefore s hs]
    rw [hfirst]
    exact Script.run_done _ _ _
  | exhausted hall =>
    have hnone : (candidates description none).find? p.shows = none := by
      refine List.find?_eq_none.2 fun s hs => ?_
      have hpassed := hall s hs
      rw [hp.passes_finding] at hpassed
      simpa using hpassed
    have hhidden : hiddenAmong (p.finding timeout) (candidates description none)
        = (candidates description none).filter p.hides :=
      List.filter_congr fun s _ => hp.isHidden_finding timeout s
    rw [hnone, hhidden]
    exact Script.run_fail _ _ _
  | lost _ _ hlost => exact absurd hlost (hp.finding_ne_lost timeout _ _)

end Target
end BrowserScript
