/-
BrowserScript.Proofs.Target.Findings — what comes of trying selectors one after the other.

The browser may find nothing under a selector, refuse to look, find an element that cannot be seen or about which it
refuses to tell, or say that the session is gone. A list of selectors is tried up to the first one that finds an
element to take, or up to the loss of the session.

* `Page.finding`: what a page has under a selector, planned refusals included.
* `Page.RefusesOnly`: a planned failure of looking is a refusal of the browser. Failures of other kinds would end
  the search too.
* `told`, `run_look_eq`: one look is one request that is written into the log, and its result for failures of any
  kind. Where the browser only refuses, that is the finding (`run_look`); in any case it is if nothing fails
  (`looked_of_told`). Running out of time is not the loss of the session (`tellsLoss_exceeded`).
* `run_resolveFrom_append`: selectors that are passed over leave a trace in the count and in the two lists, and the
  search goes on after them. By induction over them.
* `Tried`: the three ways in which a search ends.

Main statement: `resolve_tried`. A search ends in the way that the findings say, and changes nothing but the log.
-/
import BrowserScript.Proofs.Browser.Loss
import BrowserScript.Proofs.Browser.Store
import BrowserScript.Proofs.Number.Digits

namespace BrowserScript

/-! ## §1 Running out of time, and the end of the session -/

/-- The failure that the loss of the session becomes when it is met while looking for elements. -/
def Failure.gone (text : String) : Failure := .driver ("Browser session is gone: " ++ text)

/-- The failure that comes out where refusals of the browser are handled: the loss of the session, or a failure that
is not one of the browser. A refusal that can be handled leaves nothing. -/
def Failure.escapes (e : Failure) : Option Failure :=
  if e.isBrowser then if tellsLoss e.message then some (.gone e.message) else none else some e

/-- The result where a refusal is handled by going on with `a`. -/
def Failure.handledAs {α : Type} (e : Failure) (a : α) : Except Failure α :=
  match e.escapes with
  | some e' => .error e'
  | none => .ok a

theorem Browser.Script.onRefusal_fail {α : Type} (e : Failure) (handle : Failure → Script α) :
    (Script.fail e).onRefusal handle = match e.escapes with
      | some e' => .fail e'
      | none => handle e := by
  show (if e.isBrowser then _ else _) = _
  unfold Failure.escapes
  cases e.isBrowser with
  | false => rfl
  | true =>
    cases Failure.tellsLoss e.message with
    | false => rfl
    | true => rfl

theorem Browser.Script.onRefusal_done {α : Type} (e : Failure) (a : α) :
    (Script.fail e).onRefusal (fun _ => .done a) = .ofExcept (e.handledAs a) := by
  rw [onRefusal_fail, Failure.handledAs]
  cases e.escapes <;> rfl

/-- All wordings of a loss speak of something closed. -/
theorem Failure.tellsLoss_eq_false {text : String} (h : 'l' ∉ text.toList) : tellsLoss text = false := by
  have hclosed : ∀ closed ∈ closedTexts, 'l' ∈ closed.toList := by simp [closedTexts]
  have hnone : ∀ closed ∈ closedTexts, ¬ Text.contains text closed = true := by
    intro closed hmem hcontains
    exact h (Text.mem_of_contains hcontains (hclosed closed hmem))
  simpa [tellsLoss] using hnone

namespace Browser

theorem tellsLoss_exceeded (timeout : Int) : Failure.tellsLoss (Page.exceeded timeout).message = false := by
  have hmessage : (Page.exceeded timeout).message
      = "Timeout " ++ Number.intText timeout ++ "ms exceeded." := rfl
  rw [hmessage]
  apply Failure.tellsLoss_eq_false
  rw [String.toList_append, String.toList_append]
  simp [Number.not_mem_intText (c := 'l') rfl (by decide)]

/-! ## §2 What a page has under a selector -/

/-- What is found under a selector: nothing, an element that cannot be seen, one that can, or the loss of the
session with its wording. -/
inductive Finding where
  | absent
  | hidden (e : Element)
  | shown (e : Element)
  | lost (text : String)

namespace Finding

/-- A refusal counts as something else unless it says that the session is gone. -/
def ofRefusal (f : Failure) (otherwise : Finding) : Finding :=
  if Failure.tellsLoss f.message then .lost f.message else otherwise

/-- Whether there is an element that cannot be seen. -/
def isHidden : Finding → Bool
  | .hidden _ => true
  | _ => false

/-- Whether there is an element that can be seen but is not accepted. -/
def isRejected (accept : Element → Bool) : Finding → Bool
  | .shown e => !accept e
  | _ => false

/-- Whether a search goes on. -/
def passes (accept : Element → Bool) : Finding → Bool
  | .absent | .hidden _ => true
  | .shown e => !accept e
  | .lost _ => false

end Finding

namespace Page

/-- What a page has under a selector. -/
def finding (p : Page) (timeout : Int) (selector : String) : Finding :=
  match planned p.plan (Call.probe selector timeout).planKeys with
  | some f => .ofRefusal f .absent
  | none =>
    match p.element? selector with
    | none => .absent
    | some e =>
      match e.visibilityFailure with
      | some f => .ofRefusal f (.hidden e)
      | none => if e.visible.truthy then .shown e else .hidden e

/-- Failures that are planned for looking at a selector are refusals of the browser. -/
structure RefusesOnly (p : Page) (timeout : Int) (selector : String) : Prop where
  probe : ∀ f, planned p.plan (Call.probe selector timeout).planKeys = some f → f.isBrowser = true
  shown : ∀ e f, p.element? selector = some e → e.visibilityFailure = some f → f.isBrowser = true

/-- It is enough that everything planned and everything that waits in an element is a refusal. -/
theorem refusesOnly_of_forall {p : Page} (hplan : ∀ x ∈ p.plan, x.2.isBrowser = true)
    (helements : ∀ x ∈ p.elements, ∀ f ∈ x.2.visibilityFailure, f.isBrowser = true) (timeout : Int)
    (selector : String) : p.RefusesOnly timeout selector where
  probe f hf := by
    obtain ⟨x, hx, rfl⟩ := exists_mem_of_planned hf
    exact hplan x hx
  shown e f he hf := by
    obtain ⟨x, hx, rfl⟩ := exists_mem_of_lookupText he
    exact helements x hx f hf

end Page

/-- The machine with another log. -/
def Machine.withLog (m : Machine) (log : List Entry) : Machine :=
  { m with world := { m.world with log := log } }

/-- The machine after some selectors were looked for on a page: they are in the log, and nothing else has
changed. -/
def Machine.probed (m : Machine) (page : String) (timeout : Int) (selectors : List String) : Machine :=
  m.withLog (m.world.log ++ selectors.map (fun selector => .page page (.probe selector timeout)))

theorem Machine.probed_nil (m : Machine) (page : String) (timeout : Int) : m.probed page timeout [] = m := by
  simp [probed, withLog]

theorem Machine.probed_probed (m : Machine) (page : String) (timeout : Int) (first second : List String) :
    (m.probed page timeout first).probed page timeout second = m.probed page timeout (first ++ second) := by
  simp [probed, withLog]

@[simp] theorem Machine.probed_page (m : Machine) (page : String) (timeout : Int) (selectors : List String)
    (name : String) : (m.probed page timeout selectors).world.page name = m.world.page name := rfl

theorem Machine.answer_probe (m : Machine) (page selector : String) (timeout : Int) :
    m.answer page (.page (.probe selector timeout))
      = (match planned (m.world.page page).plan (Call.probe selector timeout).planKeys with
          | some f => .error f
          | none => (m.world.page page).answer (.probe selector timeout),
        m.probed page timeout [selector]) := by
  refine Prod.ext (World.ask_reply m.world page (.probe selector timeout)) ?_
  have hreads : Question.reads (.page (.probe selector timeout)) = true := rfl
  simp only [answer, askPage, World.ask_reads hreads, moved, ActivePage.hear_nil]
  rfl

end Browser

namespace Target

open Browser

variable {m : Machine} {page : String} {timeout : Int} {accept : Element → Bool}

/-! ## §3 One look -/

/-- The result of a look at a finding. -/
def looked : Finding → Except Failure (Option (Element × Bool))
  | .absent => .ok none
  | .hidden e => .ok (some (e, false))
  | .shown e => .ok (some (e, true))
  | .lost text => .error (.gone text)

/-- What a page and the browser tell about a selector, for failures of any kind. -/
def told (p : Page) (timeout : Int) (selector : String) : Except Failure (Option (Element × Bool)) :=
  match planned p.plan (Call.probe selector timeout).planKeys with
  | some f => f.handledAs none
  | none =>
    match p.element? selector with
    | none => .ok none
    | some e =>
      match e.visibilityFailure with
      | some f => f.handledAs (some (e, false))
      | none => .ok (some (e, e.visible.truthy))

/-- A look is one request that changes nothing but the log. -/
theorem run_look_eq (selector : String) : (look timeout selector).run m page
    = (told (m.world.page page) timeout selector, m.probed page timeout [selector]) := by
  have hrefused : ∀ f : Failure, (some <$> Script.ofExcept (.error f)).onRefusal (fun _ => pure none)
      = Script.ofExcept (f.handledAs (none : Option Element)) := fun f => Script.onRefusal_done f none
  rw [look_eq, Script.run_ask, Machine.answer_probe]
  dsimp only
  unfold told
  cases planned (m.world.page page).plan (Call.probe selector timeout).planKeys with
  | some f =>
    dsimp only
    rw [hrefused, Failure.handledAs, Failure.handledAs]
    cases f.escapes <;> rfl
  | none =>
    cases hfound : (m.world.page page).element? selector with
    | none =>
      have hreply : (m.world.page page).answer (.probe selector timeout) = .error (Page.exceeded timeout) := by
        simp [Page.answer, hfound]
      have hescapes : (Page.exceeded timeout).escapes = none := by
        have hrefusal : (Page.exceeded timeout).isBrowser = true := rfl
        simp [Failure.escapes, hrefusal, tellsLoss_exceeded]
      dsimp only
      rw [hreply, hrefused, Failure.handledAs, hescapes]
      rfl
    | some e =>
      have hreply : (m.world.page page).answer (.probe selector timeout) = .ok e := by
        simp [Page.answer, hfound]
      dsimp only
      rw [hreply]
      change (isShown e >>= fun shown => Script.done (some (e, shown))).run _ _ = _
      unfold isShown Element.shown
      cases e.visibilityFailure with
      | some f =>
        change ((Script.fail f).onRefusal (fun _ => .done false) >>= _).run _ _ = _
        rw [Script.onRefusal_done]
        dsimp only
        rw [Failure.handledAs, Failure.handledAs]
        cases f.escapes <;> rfl
      | none => rfl

theorem handledAs_of_isBrowser {f : Failure} (hf : f.isBrowser = true) {found : Option (Element × Bool)}
    {otherwise : Finding} (h : looked otherwise = .ok found) :
    f.handledAs found = looked (.ofRefusal f otherwise) := by
  unfold Failure.handledAs Failure.escapes Finding.ofRefusal
  rw [if_pos hf]
  cases Failure.tellsLoss f.message with
  | false => exact h.symm
  | true => rfl

theorem looked_of_handledAs {f : Failure} {found found' : Option (Element × Bool)} {otherwise : Finding}
    (h : looked otherwise = .ok found) (hf : f.handledAs found = .ok found') :
    looked (.ofRefusal f otherwise) = .ok found' := by
  cases hbrowser : f.isBrowser with
  | true => rw [← handledAs_of_isBrowser hbrowser h, hf]
  | false => simp [Failure.handledAs, Failure.escapes, hbrowser] at hf

/-- Where the browser only refuses, what is told is what is found. -/
theorem told_eq {p : Page} {selector : String} (h : p.RefusesOnly timeout selector) :
    told p timeout selector = looked (p.finding timeout selector) := by
  unfold told Page.finding
  cases hplanned : planned p.plan (Call.probe selector timeout).planKeys with
  | some f => exact handledAs_of_isBrowser (h.probe f hplanned) rfl
  | none =>
    cases hfound : p.element? selector with
    | none => rfl
    | some e =>
      dsimp only
      cases hkept : e.visibilityFailure with
      | some f => exact handledAs_of_isBrowser (h.shown e f hfound hkept) rfl
      | none => cases e.visible.truthy <;> rfl

/-- What is told without a failure is what is found. -/
theorem looked_of_told {p : Page} {selector : String} {found : Option (Element × Bool)}
    (h : told p timeout selector = .ok found) : looked (p.finding timeout selector) = .ok found := by
  unfold told at h
  unfold Page.finding
  cases hplanned : planned p.plan (Call.probe selector timeout).planKeys with
  | some f =>
    rw [hplanned] at h
    exact looked_of_handledAs rfl h
  | none =>
    rw [hplanned] at h
    cases hfound : p.element? selector with
    | none =>
      rw [hfound] at h
      exact h
    | some e =>
      rw [hfound] at h
      dsimp only at h ⊢
      cases hkept : e.visibilityFailure with
      | some f =>
        rw [hkept] at h
        exact looked_of_handledAs rfl h
      | none =>
        rw [hkept] at h
        rw [← h]
        cases e.visible.truthy <;> rfl

/-- A look finds what the page has. -/
theorem run_look {selector : String} (h : (m.world.page page).RefusesOnly timeout selector) :
    (look timeout selector).run m page
      = (looked ((m.world.page page).finding timeout selector), m.probed page timeout [selector]) := by
  rw [run_look_eq, told_eq h]

/-! ## §4 Trying selectors -/

section Trying

variable (look : String → Finding) (accept : Element → Bool)

/-- Those of some selectors under which there is an element that cannot be seen. -/
def hiddenAmong (selectors : List String) : List String := selectors.filter (fun s => (look s).isHidden)

/-- Those of some selectors under which there is an element that can be seen but is not accepted. -/
def rejectedAmong (selectors : List String) : List String :=
  selectors.filter (fun s => (look s).isRejected accept)

/-- What is known after some more selectors were tried and passed over. -/
def Resolution.past (r : Resolution) (selectors : List String) : Resolution :=
  { r with
    tried := r.tried + selectors.length
    hidden := r.hidden ++ hiddenAmong look selectors
    rejected := r.rejected ++ rejectedAmong look accept selectors }

end Trying

theorem Resolution.past_nil (look : String → Finding) (accept : Element → Bool) (r : Resolution) :
    r.past look accept [] = r := by
  simp [past, hiddenAmong, rejectedAmong]

theorem Resolution.past_past (look : String → Finding) (accept : Element → Bool) (r : Resolution)
    (first second : List String) :
    (r.past look accept first).past look accept second = r.past look accept (first ++ second) := by
  simp [past, hiddenAmong, rejectedAmong]
  omega

theorem Resolution.past_singleton (look : String → Finding) (accept : Element → Bool) (r : Resolution)
    (selector : String) :
    r.past look accept [selector] = { r.next with
      hidden := r.hidden ++ if (look selector).isHidden then [selector] else []
      rejected := r.rejected ++ if (look selector).isRejected accept then [selector] else [] } := by
  simp [past, next, hiddenAmong, rejectedAmong, List.filter_cons]

/-- One selector tried: the search goes on, or it ends with this selector or with the loss of the session. -/
theorem run_resolveFrom_cons {p : Page} {selector : String} (hp : m.world.page page = p)
    (h : p.RefusesOnly timeout selector) (r : Resolution) (rest : List String) :
    (resolveFrom timeout accept r (selector :: rest)).run m page = match p.finding timeout selector with
      | .absent => (resolveFrom timeout accept r.next rest).run (m.probed page timeout [selector]) page
      | .hidden _ =>
        (resolveFrom timeout accept { r.next with hidden := r.next.hidden ++ [selector] } rest).run
          (m.probed page timeout [selector]) page
      | .shown e =>
        if accept e then
          (.ok { r.next with selector := some selector }, m.probed page timeout [selector])
        else
          (resolveFrom timeout accept { r.next with rejected := r.next.rejected ++ [selector] } rest).run
            (m.probed page timeout [selector]) page
      | .lost text => (.error (.gone text), m.probed page timeout [selector]) := by
  subst hp
  rw [resolveFrom_cons, Script.run_bind, run_look h]
  cases (m.world.page page).finding timeout selector with
  | absent => rfl
  | hidden e => rfl
  | shown e => cases haccept : accept e <;> simp [looked, haccept, Script.run_done]
  | lost text => rfl

theorem run_resolveFrom_passed {p : Page} {selector : String} (hp : m.world.page page = p)
    (h : p.RefusesOnly timeout selector) (hpasses : (p.finding timeout selector).passes accept = true)
    (r : Resolution) (rest : List String) :
    (resolveFrom timeout accept r (selector :: rest)).run m page
      = (resolveFrom timeout accept (r.past (p.finding timeout) accept [selector]) rest).run
          (m.probed page timeout [selector]) page := by
  rw [run_resolveFrom_cons hp h, Resolution.past_singleton]
  cases hfinding : p.finding timeout selector with
  | absent => simp [Finding.isHidden, Finding.isRejected, Resolution.next]
  | hidden e => simp [Finding.isHidden, Finding.isRejected, Resolution.next]
  | shown e =>
    have hrefused : accept e = false := by simpa [hfinding, Finding.passes] using hpasses
    simp [Finding.isHidden, Finding.isRejected, Resolution.next, hrefused]
  | lost text => simp [hfinding, Finding.passes] at hpasses

/-- Selectors that are passed over are looked for, counted and remembered, and the search goes on after them. -/
theorem run_resolveFrom_append {p : Page} {before : List String} (hp : m.world.page page = p)
    (hrefuses : ∀ s ∈ before, p.RefusesOnly timeout s)
    (hpasses : ∀ s ∈ before, (p.finding timeout s).passes accept = true) (r : Resolution)
    (rest : List String) :
    (resolveFrom timeout accept r (before ++ rest)).run m page
      = (resolveFrom timeout accept (r.past (p.finding timeout) accept before) rest).run
          (m.probed page timeout before) page := by
  induction before generalizing m r with
  | nil => rw [Resolution.past_nil, Machine.probed_nil, List.nil_append]
  | cons selector before ih =>
    obtain ⟨hselector, hothers⟩ := List.forall_mem_cons.1 hrefuses
    obtain ⟨hpassed, hpasses⟩ := List.forall_mem_cons.1 hpasses
    have hthere : (m.probed page timeout [selector]).world.page page = p := by
      rw [Machine.probed_page, hp]
    rw [List.cons_append, run_resolveFrom_passed hp hselector hpassed, ih hthere hothers hpasses,
      Machine.probed_probed, Resolution.past_past, List.singleton_append]

/-! ## §5 How a search ends -/

/-- How trying selectors ends, with the selectors that were looked for. Everything before the last of these was
passed over: there was no element, or none that can be seen, or none that is accepted. -/
inductive Tried (look : String → Finding) (accept : Element → Bool) (selectors : List String) :
    List String → Except Failure Resolution → Prop
  | taken {before after : List String} {selector : String} {e : Element}
      (hsplit : selectors = before ++ selector :: after)
      (hbefore : ∀ s ∈ before, (look s).passes accept = true) (hshown : look selector = .shown e)
      (haccept : accept e = true) :
      Tried look accept selectors (before ++ [selector]) (.ok ⟨some selector, before.length + 1,
        hiddenAmong look before, rejectedAmong look accept before⟩)
  | exhausted (hall : ∀ s ∈ selectors, (look s).passes accept = true) :
      Tried look accept selectors selectors (.ok ⟨none, selectors.length, hiddenAmong look selectors,
        rejectedAmong look accept selectors⟩)
  | lost {before after : List String} {selector text : String}
      (hsplit : selectors = before ++ selector :: after)
      (hbefore : ∀ s ∈ before, (look s).passes accept = true) (hlost : look selector = .lost text) :
      Tried look accept selectors (before ++ [selector]) (.error (.gone text))

/-- A search ends in some way. -/
theorem exists_tried (look : String → Finding) (accept : Element → Bool) (selectors : List String) :
    ∃ probed result, Tried look accept selectors probed result := by
  cases hfirst : selectors.find? (fun s => !(look s).passes accept) with
  | none =>
    refine ⟨_, _, .exhausted fun s hs => ?_⟩
    simpa using List.find?_eq_none.1 hfirst s hs
  | some selector =>
    obtain ⟨hstops, before, after, hsplit, hbefore⟩ := List.find?_eq_some_iff_append.1 hfirst
    have hpassed : ∀ s ∈ before, (look s).passes accept = true := by
      intro s hs
      simpa using hbefore s hs
    cases hlook : look selector with
    | absent => simp [hlook, Finding.passes] at hstops
    | hidden e => simp [hlook, Finding.passes] at hstops
    | shown e =>
      have haccept : accept e = true := by simpa [hlook, Finding.passes] using hstops
      exact ⟨_, _, .taken hsplit hpassed hlook haccept⟩
    | lost text => exact ⟨_, _, .lost hsplit hpassed hlook⟩

theorem run_resolve_of_tried {p : Page} {selectors probed : List String} {result : Except Failure Resolution}
    (hp : m.world.page page = p) (hrefuses : ∀ s ∈ selectors, p.RefusesOnly timeout s)
    (h : Tried (p.finding timeout) accept selectors probed result) :
    (resolve timeout selectors accept).run m page = (result, m.probed page timeout probed) := by
  unfold resolve
  have hpast : ∀ {before rest : List String}, selectors = before ++ rest →
      (∀ s ∈ before, (p.finding timeout s).passes accept = true) →
      (resolveFrom timeout accept .start selectors).run m page
        = (resolveFrom timeout accept (Resolution.start.past (p.finding timeout) accept before) rest).run
            (m.probed page timeout before) page := by
    intro before rest hsplit hbefore
    have hearlier : ∀ s ∈ before, p.RefusesOnly timeout s := by
      intro s hs
      exact hrefuses s (by simp [hsplit, hs])
    rw [hsplit]
    exact run_resolveFrom_append hp hearlier hbefore _ rest
  have hthere : ∀ before, (m.probed page timeout before).world.page page = p := by
    intro before
    rw [Machine.probed_page, hp]
  cases h with
  | @taken before after selector e hsplit hbefore hshown haccept =>
    have hselector := hrefuses selector (by simp [hsplit])
    rw [hpast hsplit hbefore, run_resolveFrom_cons (hthere before) hselector, hshown]
    simp [haccept, Machine.probed_probed, Resolution.past, Resolution.next, Resolution.start]
  | exhausted hall =>
    rw [hpast (List.append_nil selectors).symm hall, resolveFrom, Script.pure_eq_done, Script.run_done]
    simp [Resolution.past, Resolution.start]
  | @lost before after selector text hsplit hbefore hlost =>
    have hselector := hrefuses selector (by simp [hsplit])
    rw [hpast hsplit hbefore, run_resolveFrom_cons (hthere before) hselector, hlost]
    simp [Machine.probed_probed]

/-- Selectors are looked for in order, and each place of the list at most once. The search ends at the first one
under which there is an element that can be seen and is accepted, or when the browser says that the session is
gone; without either all selectors are tried. It fails exactly when the session is gone before an element is taken,
and nothing changes but the log. -/
theorem resolve_tried {p : Page} {selectors : List String} (hp : m.world.page page = p)
    (hrefuses : ∀ s ∈ selectors, p.RefusesOnly timeout s) :
    (∃ probed result, Tried (p.finding timeout) accept selectors probed result) ∧
      (∀ probed result, Tried (p.finding timeout) accept selectors probed result →
        (resolve timeout selectors accept).run m page = (result, m.probed page timeout probed)) ∧
      ∀ f, ((resolve timeout selectors accept).run m page).1 = .error f ↔
        ∃ before selector after text, selectors = before ++ selector :: after ∧
          (∀ s ∈ before, (p.finding timeout s).passes accept = true) ∧
          p.finding timeout selector = .lost text ∧ f = .gone text := by
  have hruns : ∀ probed result, Tried (p.finding timeout) accept selectors probed result →
      (resolve timeout selectors accept).run m page = (result, m.probed page timeout probed) :=
    fun _ _ h => run_resolve_of_tried hp hrefuses h
  refine ⟨exists_tried _ accept selectors, hruns, fun f => ?_⟩
  constructor
  · intro hfails
    obtain ⟨probed, result, h⟩ := exists_tried (p.finding timeout) accept selectors
    rw [hruns probed result h] at hfails
    cases h with
    | taken => cases hfails
    | exhausted => cases hfails
    | lost hsplit hbefore hlost =>
      cases hfails
      exact ⟨_, _, _, _, hsplit, hbefore, hlost, rfl⟩
  · rintro ⟨before, selector, after, text, hsplit, hbefore, hlost, rfl⟩
    rw [hruns _ _ (.lost hsplit hbefore hlost)]

/-- A page of which the browser refuses a banner, with a menu and an old price that cannot be seen, a label and a
button. -/
def counter : Page where
  name := "main"
  elements := [("#menu", { visible := .bool false }),
    ("#old", { visibilityFailure := some (.browser "Element is not attached to the DOM") }),
    ("#label", { text := some "Price" }), ("#buy", { text := some "Buy" })]
  plan := [("probe:#banner", .timeout "Timeout 2000ms exceeded.")]

/-- A browser that shows this page. -/
def shopping : Machine where
  disk := { entries := [], current := [], environment := [] }
  config := {}
  world := { pages := [counter], context := ["main"] }
  tab := .on "main" true

theorem refusesOnly_counter (selector : String) : counter.RefusesOnly 2000 selector :=
  Page.refusesOnly_of_forall (by decide +kernel) (by simp [counter, Failure.isBrowser]) 2000 selector

/-- Selectors of which one stands there twice. -/
def offered : List String := ["#banner", "#menu", "#old", "#label", "#menu", "#buy", "#cart"]

/-- The button is the sixth of the selectors, and the last one is not looked for. -/
theorem resolve_tried_counter :
    (resolve 2000 offered (fun e => e.text == some "Buy")).run shopping "main"
      = (.ok ⟨some "#buy", 6, ["#menu", "#old", "#menu"], ["#label"]⟩,
          shopping.probed "main" 2000 ["#banner", "#menu", "#old", "#label", "#menu", "#buy"]) := by
  have hpage : shopping.world.page "main" = counter := rfl
  obtain ⟨-, hruns, -⟩ := resolve_tried hpage fun s _ => refusesOnly_counter s
  have htried : Tried (counter.finding 2000) (fun e => e.text == some "Buy") offered
      (["#banner", "#menu", "#old", "#label", "#menu"] ++ ["#buy"])
      (.ok ⟨some "#buy", 6, ["#menu", "#old", "#menu"], ["#label"]⟩) :=
    .taken rfl (by decide +kernel) rfl rfl
  exact hruns _ _ htried

end Target
end BrowserScript
