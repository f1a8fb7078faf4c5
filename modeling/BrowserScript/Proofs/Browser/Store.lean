/-
BrowserScript.Proofs.Browser.Store — the failures that a browser has in store.

Failures are planned for requests and wait in elements that cannot be asked whether they can be seen. Clicks
and visits bring new elements and new plans, so what a browser may answer later is not in its pages alone.
`World.FailsOnly P` says of all failures that are in store anywhere that they are of a kind. No request makes
new ones (`Machine.answer_failsOnly`), and a refusal is one of them or one that the page has of its own
(`Machine.answer_within`).

Requests that only read are told apart here as well: they leave everything as it was but for the log
(`Script.run_reads`). A browser that is described has only failures in store that a description can name
(`worldOf_failsOnly`).
-/
import BrowserScript.Browser.Description
import BrowserScript.Proofs.Browser.Ensures

namespace BrowserScript.Browser

/-! ## §1 Failures in store -/

/-- The failure of an element that cannot be asked whether it can be seen is of a kind. -/
def Element.FailsOnly (P : Failure → Prop) (e : Element) : Prop := ∀ f, e.visibilityFailure = some f → P f

/-- The failures that an effect brings are of a kind. -/
def Effect.FailsOnly (P : Failure → Prop) : Effect → Prop
  | .setElements _ changes => ∀ change ∈ changes, ∀ e, change.2 = some e → e.FailsOnly P
  | .planFailures _ plan => ∀ x ∈ plan, P x.2
  | _ => True

/-- The failures that a page has in store, also behind its clicks and addresses, are of a kind. -/
structure Page.FailsOnly (P : Failure → Prop) (p : Page) : Prop where
  elements : ∀ x ∈ p.elements, x.2.FailsOnly P
  onClick : ∀ x ∈ p.onClick, ∀ e ∈ x.2, Effect.FailsOnly P e
  routes : ∀ x ∈ p.routes, ∀ elements, x.2.elements = some elements → ∀ y ∈ elements, y.2.FailsOnly P
  plan : ∀ x ∈ p.plan, P x.2

/-- The failures that a browser has in store are of a kind. -/
structure World.FailsOnly (P : Failure → Prop) (w : World) : Prop where
  pages : ∀ p ∈ w.pages, p.FailsOnly P
  plan : ∀ x ∈ w.plan, P x.2
  onSleep : ∀ e ∈ w.onSleep, Effect.FailsOnly P e

section Mono

variable {P Q : Failure → Prop}

theorem Element.FailsOnly.mono (hPQ : ∀ f, P f → Q f) {e : Element} (h : e.FailsOnly P) : e.FailsOnly Q :=
  fun f hf => hPQ f (h f hf)

theorem Effect.FailsOnly.mono (hPQ : ∀ f, P f → Q f) {e : Effect} (h : e.FailsOnly P) : e.FailsOnly Q := by
  cases e with
  | setElements page changes => exact fun change hchange e he => (h change hchange e he).mono hPQ
  | planFailures page plan => exact fun x hx => hPQ _ (h x hx)
  | _ => trivial

theorem Page.FailsOnly.mono (hPQ : ∀ f, P f → Q f) {p : Page} (h : p.FailsOnly P) : p.FailsOnly Q where
  elements x hx := (h.elements x hx).mono hPQ
  onClick x hx e he := (h.onClick x hx e he).mono hPQ
  routes x hx elements helements y hy := (h.routes x hx elements helements y hy).mono hPQ
  plan x hx := hPQ _ (h.plan x hx)

theorem World.FailsOnly.mono (hPQ : ∀ f, P f → Q f) {w : World} (h : w.FailsOnly P) : w.FailsOnly Q where
  pages p hp := (h.pages p hp).mono hPQ
  plan x hx := hPQ _ (h.plan x hx)
  onSleep e he := (h.onSleep e he).mono hPQ

end Mono

/-! ## §2 Look-ups -/

theorem exists_mem_of_lookupText {α : Type} {key : String} {entries : List (String × α)} {v : α}
    (h : lookupText key entries = some v) : ∃ x ∈ entries, x.2 = v := by
  induction entries with
  | nil => cases h
  | cons entry rest ih =>
    unfold lookupText at h
    split at h
    · cases h
      exact ⟨entry, List.mem_cons_self, rfl⟩
    · obtain ⟨x, hx, hv⟩ := ih h
      exact ⟨x, List.mem_cons_of_mem _ hx, hv⟩

theorem mem_insertText {α : Type} {key : String} {v : α} {entries : List (String × α)} {x : String × α}
    (h : x ∈ insertText key v entries) : x ∈ entries ∨ x.2 = v := by
  induction entries with
  | nil => exact .inr (by rw [List.mem_singleton.1 h])
  | cons entry rest ih =>
    unfold insertText at h
    split at h
    · rcases List.mem_cons.1 h with rfl | h
      · exact .inr rfl
      · exact .inl (List.mem_cons_of_mem _ h)
    · rcases List.mem_cons.1 h with rfl | h
      · exact .inl List.mem_cons_self
      · exact (ih h).imp_left (List.mem_cons_of_mem _)

theorem exists_mem_of_planned {plan : List (String × Failure)} {keys : List String} {f : Failure}
    (h : planned plan keys = some f) : ∃ x ∈ plan, x.2 = f := by
  obtain ⟨key, -, hkey⟩ := List.exists_of_findSome?_eq_some h
  exact exists_mem_of_lookupText hkey

/-! ## §3 No request makes new ones -/

variable {P : Failure → Prop}

namespace Page.FailsOnly

variable {p : Page}

theorem blank (name : String) : Page.FailsOnly P { name := name } :=
  ⟨nofun, nofun, nofun, nofun⟩

theorem element (h : p.FailsOnly P) {selector : String} {e : Element} (he : p.element? selector = some e) :
    e.FailsOnly P := by
  obtain ⟨x, hx, rfl⟩ := exists_mem_of_lookupText he
  exact h.elements x hx

theorem visit (h : p.FailsOnly P) (url : String) : (p.visit url).FailsOnly P := by
  unfold Page.visit
  split
  · exact { h with }
  · rename_i r hroute
    obtain ⟨x, hx, rfl⟩ := exists_mem_of_lookupText hroute
    refine { h with elements := ?_ }
    cases helements : x.2.elements with
    | none => exact h.elements
    | some elements => exact h.routes x hx elements helements

theorem setElement (h : p.FailsOnly P) {change : String × Option Element}
    (hchange : ∀ e, change.2 = some e → e.FailsOnly P) : (p.setElement change).FailsOnly P := by
  unfold Page.setElement
  split
  · rename_i e he
    refine { h with elements := ?_ }
    intro x hx
    rcases mem_insertText hx with hx | hx
    · exact h.elements x hx
    · exact hx ▸ hchange e he
  · exact { h with elements := fun x hx => h.elements x (List.mem_filter.1 hx).1 }

theorem setElements (h : p.FailsOnly P) {changes : List (String × Option Element)}
    (hchanges : ∀ change ∈ changes, ∀ e, change.2 = some e → e.FailsOnly P) :
    (changes.foldl Page.setElement p).FailsOnly P := by
  induction changes generalizing p with
  | nil => exact h
  | cons change rest ih =>
    obtain ⟨hchange, hrest⟩ := List.forall_mem_cons.1 hchanges
    exact ih (h.setElement hchange) hrest

theorem planFailures (h : p.FailsOnly P) {added : List (String × Failure)} (hadded : ∀ x ∈ added, P x.2) :
    Page.FailsOnly P { p with plan := added.foldl (fun acc x => insertText x.1 x.2 acc) p.plan } := by
  have hplan : ∀ plan : List (String × Failure), (∀ x ∈ plan, P x.2) →
      ∀ x ∈ added.foldl (fun acc x => insertText x.1 x.2 acc) plan, P x.2 := by
    induction added with
    | nil => exact fun plan hplan => hplan
    | cons y rest ih =>
      obtain ⟨hy, hrest⟩ := List.forall_mem_cons.1 hadded
      intro plan hplan
      refine ih hrest _ fun x hx => ?_
      rcases mem_insertText hx with hx | hx
      · exact hplan x hx
      · exact hx ▸ hy
  exact { h with plan := hplan p.plan h.plan }

end Page.FailsOnly

namespace World.FailsOnly

variable {w : World}

theorem page (h : w.FailsOnly P) (name : String) : (w.page name).FailsOnly P := by
  unfold World.page
  cases hfind : w.pages.find? (·.name == name) with
  | none => exact .blank name
  | some p => exact h.pages p (List.mem_of_find?_eq_some hfind)

theorem update (h : w.FailsOnly P) (name : String) {f : Page → Page}
    (hf : ∀ p : Page, p.FailsOnly P → (f p).FailsOnly P) : (w.update name f).FailsOnly P := by
  refine { h with pages := ?_ }
  intro q hq
  obtain ⟨p, hp, rfl⟩ := List.mem_map.1 hq
  split
  · exact hf p (h.pages p hp)
  · exact h.pages p hp

/-- One effect keeps the failures in store of their kind. -/
theorem apply (h : w.FailsOnly P) (here : String) {e : Effect} (he : e.FailsOnly P) :
    (w.apply here e).1.FailsOnly P := by
  cases e with
  | visit page url => exact h.update _ fun p hp => hp.visit url
  | setElements page changes => exact h.update _ fun p hp => hp.setElements he
  | openPage page announced =>
    have hlisted : ∀ v : World, v.FailsOnly P → World.FailsOnly P
        (if v.context.contains (page.getD here) then v
          else { v with context := v.context ++ [page.getD here] }) := by
      intro v hv
      split
      · exact hv
      · exact { hv with }
    exact hlisted _ (h.update _ fun p hp => { hp with })
  | close page => exact h.update _ fun p hp => { hp with }
  | drop page => exact { h with }
  | planFailures page plan => exact h.update _ fun p hp => hp.planFailures he

theorem applyAll (h : w.FailsOnly P) (here : String) {es : List Effect} (hes : ∀ e ∈ es, e.FailsOnly P) :
    (w.applyAll here es).1.FailsOnly P := by
  induction es generalizing w with
  | nil => exact h
  | cons e rest ih =>
    obtain ⟨he, hrest⟩ := List.forall_mem_cons.1 hes
    exact ih (h.apply here he) hrest

theorem clicked (h : w.FailsOnly P) (name selector : String) :
    ∀ e ∈ (lookupText selector (w.page name).onClick).getD [], Effect.FailsOnly P e := by
  cases hclick : lookupText selector (w.page name).onClick with
  | none => exact nofun
  | some es =>
    obtain ⟨x, hx, rfl⟩ := exists_mem_of_lookupText hclick
    exact (h.page name).onClick x hx

theorem after (h : w.FailsOnly P) (name : String) (c : Call) : (w.after name c).1.FailsOnly P := by
  unfold World.after
  split
  · exact h.applyAll name (h.clicked name _)
  · exact h.applyAll name (h.clicked name _)
  · exact h.update name fun p hp => hp.visit _
  · exact h

theorem logged (h : w.FailsOnly P) (entry : Entry) : (w.logged entry).FailsOnly P := { h with }

theorem ask (h : w.FailsOnly P) (name : String) (c : Call) : (w.ask name c).2.1.FailsOnly P := by
  unfold World.ask
  dsimp only
  split
  · exact h.logged _
  · split
    · exact h.logged _
    · exact (h.logged _).after name c

theorem askContext (h : w.FailsOnly P) (c : ContextCall) : (w.askContext c).2.1.FailsOnly P := by
  have hafter : ∀ v : World, v.FailsOnly P → (v.afterContext c).1.FailsOnly P := by
    intro v hv
    cases c with
    | addCookies added => exact { hv with }
    | sleep seconds =>
      have hslept : World.FailsOnly P { v with onSleep := [] } := { hv with onSleep := nofun }
      exact hslept.applyAll _ hv.onSleep
    | _ => exact hv
  unfold World.askContext
  dsimp only
  split
  · exact h.logged _
  · exact hafter _ (h.logged _)

end World.FailsOnly

/-- No answer puts other failures into the store. -/
theorem Machine.answer_failsOnly {m : Machine} (h : m.world.FailsOnly P) (page : String) (q : Question) :
    (m.answer page q).2.world.FailsOnly P := by
  cases q with
  | page call => exact h.ask page call
  | addCookies added => exact h.askContext _
  | cookies =>
    have hasked := h.askContext .cookies
    simp only [answer, Machine.askContext]
    rcases hw : m.world.askContext .cookies with ⟨_ | _, w, announced⟩
    · rw [hw] at hasked; exact hasked
    · rw [hw] at hasked; exact hasked
  | makeDirs path =>
    simp only [answer]
    split <;> exact h
  | expandHome path =>
    simp only [answer]
    split <;> exact h
  | _ => exact h

/-- No run puts other failures into the store. -/
theorem Script.run_failsOnly {α : Type} {m m' : Machine} {page : String} {s : Script α} {r : Except Failure α}
    (h : m.world.FailsOnly P) (hrun : s.run m page = (r, m')) : m'.world.FailsOnly P := by
  induction s generalizing m with
  | done a =>
    cases hrun
    exact h
  | fail e =>
    cases hrun
    exact h
  | ask q next ih => exact ih _ (Machine.answer_failsOnly h page q) hrun

/-! ## §4 What is refused -/

/-- A kind of failures to which those belong that a page, a disk or the time limit has of its own. -/
structure Usual (P : Failure → Prop) : Prop where
  timeout (text : String) : P (.timeout text)
  ordinary (fault : Fault) : P (.ordinary fault)

/-- An exchange brings no failures but those of a kind: neither is it a refusal with another one, nor does it
find an element that keeps another one. -/
structure Exchange.Within (P : Failure → Prop) (x : Exchange) : Prop where
  reply : ∀ e, x.reply = .error e → P e
  element : ∀ (selector : String) (timeout : Int) (e : Element),
    x = ⟨.page (.probe selector timeout), .ok e⟩ → e.FailsOnly P

/-- What a page refuses of its own. -/
theorem Page.answer_error (hP : Usual P) (p : Page) (c : Call) {e : Failure} (h : p.answer c = .error e) :
    P e := by
  have hneed : ∀ {α : Type} {selector : String} {use : Element → α}, p.need selector use = .error e → P e := by
    intro α selector use h
    unfold Page.need at h
    split at h
    · cases h
    · cases h
      exact hP.timeout _
  cases c with
  | probe selector timeout =>
    simp only [Page.answer] at h
    split at h
    · cases h
    · cases h
      exact hP.timeout _
  | waitVisible selector timeout =>
    simp only [Page.answer] at h
    split at h
    · split at h
      · cases h
      · cases h
        exact hP.timeout _
    · cases h
      exact hP.timeout _
  | clickFound selector =>
    have hother : (if selector.canBeKey then .error (Page.notThere selector.plain)
        else .error (.ordinary (.unhashable selector.typeWord)) : Except Failure Unit) = .error e → P e := by
      intro h
      split at h
      · cases h
        exact hP.timeout _
      · cases h
        exact hP.ordinary _
    cases selector with
    | text s => exact hneed h
    | _ => exact hother h
  | waitForUrlChange before timeout =>
    simp only [Page.answer] at h
    split at h
    · cases h
    · cases h
      exact hP.timeout _
  | _ => first | cases h | exact hneed h

/-- A request to a page is refused as planned, or the page refuses it of its own. -/
theorem World.ask_within (hP : Usual P) {w : World} (h : w.FailsOnly P) (name : String) (c : Call) {e : Failure}
    (he : (w.ask name c).1 = .error e) : P e := by
  rw [World.ask_reply] at he
  split at he
  · rename_i f hplanned
    cases he
    obtain ⟨x, hx, rfl⟩ := exists_mem_of_planned hplanned
    exact (h.page name).plan x hx
  · exact Page.answer_error hP _ c he

/-- An element that is found keeps no failure but one that was in store. -/
theorem World.probed_failsOnly {w : World} (h : w.FailsOnly P) (name : String) {selector : String}
    {timeout : Int} {e : Element} (he : (w.ask name (.probe selector timeout)).1 = .ok e) : e.FailsOnly P := by
  rw [World.ask_reply] at he
  split at he
  · cases he
  · simp only [Page.answer] at he
    cases hfound : (w.page name).element? selector with
    | none => rw [hfound] at he; cases he
    | some found =>
      rw [hfound] at he
      cases he
      exact (h.page name).element hfound

theorem Machine.askContext_within {m : Machine} (h : m.world.FailsOnly P) (c : ContextCall) {e : Failure}
    (he : (m.askContext c).1 = .error e) : P e := by
  obtain ⟨x, hx, rfl⟩ := exists_mem_of_planned ((m.askContext_eq_error c e).1 he)
  exact h.plan x hx

/-- Failures of references to secrets are of a kind. -/
def SecretsFail (P : Failure → Prop) : Prop := ∀ disk projectDir secrets parameter e,
  resolveSecret disk projectDir secrets parameter = .error e → P e

/-- No answer brings failures of another kind, except that references to secrets fail in their own way. -/
theorem Machine.answer_within (hP : Usual P) {m : Machine} (h : m.world.FailsOnly P) (page : String)
    (q : Question) (hsecret : ∀ parameter, q = .secret parameter → SecretsFail P) :
    Exchange.Within P ⟨q, (m.answer page q).1⟩ := by
  refine ⟨?_, ?_⟩
  · intro e he
    cases q with
    | page call => exact World.ask_within hP h page call he
    | url => cases he
    | clock => cases he
    | addCookies added => exact m.askContext_within h _ he
    | cookies =>
      simp only [answer] at he
      rcases hasked : m.askContext .cookies with ⟨f | _, m₁⟩
      · rw [hasked] at he
        cases he
        exact m.askContext_within h .cookies (by rw [hasked])
      · rw [hasked] at he
        cases he
    | secret parameter => exact hsecret parameter rfl _ _ _ _ e he
    | isFile path =>
      simp only [answer] at he
      cases hfile : m.disk.isFile path with
      | ok found => rw [hfile] at he; cases he
      | error f =>
        rw [hfile] at he
        cases he
        exact hP.ordinary _
    | makeDirs path =>
      simp only [answer] at he
      split at he
      · cases he
      · cases he
        exact hP.ordinary _
    | expandHome path =>
      simp only [answer] at he
      split at he
      · cases he
      · cases he
        exact hP.ordinary _
  · intro selector timeout e hx
    obtain ⟨rfl, hreply⟩ := Exchange.mk.inj hx
    exact World.probed_failsOnly h page (eq_of_heq hreply)

theorem Script.transcript_within {α : Type} (hP : Usual P) {m : Machine} (h : m.world.FailsOnly P)
    (page : String) (s : Script α) :
    ∀ x ∈ s.transcript m page, (∀ parameter, x.question = .secret parameter → SecretsFail P) →
      x.Within P := by
  induction s generalizing m with
  | done a => exact List.forall_mem_nil _
  | fail e => exact List.forall_mem_nil _
  | ask q next ih =>
    exact List.forall_mem_cons.2 ⟨Machine.answer_within hP h page q,
      ih _ (Machine.answer_failsOnly h page q)⟩

/-! ## §5 Reading -/

/-- Whether a question only reads: it looks for elements, their boxes or options, searches the page by text,
or is no request to the browser and changes no file. -/
def Question.reads : Question → Bool
  | .page (.probe ..) | .page (.query _) | .page (.matchOption ..) | .page (.find ..) => true
  | .url | .secret _ | .isFile _ | .expandHome _ | .clock => true
  | _ => false

/-- Whether an entry of the log is a request that only reads. -/
def Entry.reads : Entry → Bool
  | .page _ call => Question.reads (.page call)
  | .context _ => false

theorem Question.reads_of_entry {page : String} {x : Exchange} (hx : x.question.reads = true) :
    ∀ entry ∈ Exchange.entry? page x, entry.reads = true := by
  obtain ⟨q, reply⟩ := x
  cases q with
  | page call => rintro entry ⟨⟩; exact hx
  | cookies => cases hx
  | addCookies added => cases hx
  | _ => nofun

/-- An answered request that only reads changes nothing. -/
theorem World.after_reads {c : Call} (hc : Question.reads (.page c) = true) (w : World) (name : String) :
    w.after name c = (w, []) := by
  cases c <;> first | rfl | cases hc

theorem World.ask_reads {c : Call} (hc : Question.reads (.page c) = true) (w : World) (name : String) :
    (w.ask name c).2 = (w.logged (.page name c), []) := by
  unfold World.ask
  dsimp only
  split
  · rfl
  · split
    · rfl
    · rw [after_reads hc]

theorem ActivePage.hear_nil (a : ActivePage) : a.hear [] = a := by
  unfold hear
  split <;> rfl

/-- A question that only reads is written into the log, if it is a request, and nothing else changes. -/
theorem Machine.answer_reads {q : Question} (hq : q.reads = true) (m : Machine) (page : String) :
    ∃ log, (m.answer page q).2 = { m with world := { m.world with log := log } } := by
  cases q with
  | page call =>
    refine ⟨m.world.log ++ [.page page call], ?_⟩
    simp only [answer, askPage, World.ask_reads hq, moved, ActivePage.hear_nil]
    rfl
  | expandHome path =>
    refine ⟨m.world.log, ?_⟩
    simp only [answer]
    split <;> rfl
  | cookies => cases hq
  | addCookies added => cases hq
  | makeDirs path => cases hq
  | _ => exact ⟨m.world.log, rfl⟩

/-- A run that only reads leaves everything as it was but for the log. -/
theorem Script.run_reads {α : Type} {m : Machine} {page : String} {s : Script α}
    (h : ∀ x ∈ s.transcript m page, x.question.reads = true) :
    ∃ log, (s.run m page).2 = { m with world := { m.world with log := log } } := by
  induction s generalizing m with
  | done a => exact ⟨m.world.log, rfl⟩
  | fail e => exact ⟨m.world.log, rfl⟩
  | ask q next ih =>
    obtain ⟨hq, hrest⟩ := List.forall_mem_cons.1 h
    obtain ⟨log, hanswer⟩ := Machine.answer_reads hq m page
    obtain ⟨log', hrun⟩ := ih _ hrest
    rw [run_ask, hrun, hanswer]
    exact ⟨log', rfl⟩

/-! ## §6 Described browsers -/

namespace Description

/-- The failures that a description can name. -/
theorem failureOf_cases (v : Value) : ∃ text, failureOf v = .driver text ∨ failureOf v = .timeout text ∨
    failureOf v = .browser text ∨ ∃ ofValue, failureOf v = .outside ofValue text := by
  unfold failureOf
  split
  · rename_i kind message _
    refine ⟨message, ?_⟩
    split
    · exact .inl rfl
    · split
      · exact .inr (.inl rfl)
      · split
        · exact .inr (.inr (.inr ⟨_, rfl⟩))
        · split
          · exact .inr (.inr (.inr ⟨_, rfl⟩))
          · exact .inr (.inr (.inl rfl))
  · exact ⟨"", .inr (.inr (.inl rfl))⟩

variable {P : Failure → Prop} (hP : ∀ v, P (failureOf v))

include hP

theorem planOf_failsOnly (v : Value) : ∀ x ∈ planOf v, P x.2 := by
  intro x hx
  obtain ⟨e, -, rfl⟩ := List.mem_map.1 hx
  exact hP e.2

theorem elementOf_failsOnly (v : Value) : (elementOf v).FailsOnly P := by
  intro f hf
  obtain ⟨w, -, rfl⟩ := Option.map_eq_some_iff.1 hf
  exact hP w

theorem elementsOf_failsOnly (v : Value) : ∀ x ∈ elementsOf v, x.2.FailsOnly P := by
  intro x hx
  obtain ⟨e, -, rfl⟩ := List.mem_map.1 hx
  exact elementOf_failsOnly hP e.2

theorem changesOf_failsOnly (v : Value) :
    ∀ change ∈ changesOf v, ∀ e, change.2 = some e → e.FailsOnly P := by
  intro change hchange e he
  obtain ⟨entry, -, rfl⟩ := List.mem_map.1 hchange
  dsimp only at he
  split at he
  · cases he
  · cases he
    exact elementOf_failsOnly hP _

theorem effectOf_failsOnly {v : Value} {e : Effect} (h : effectOf v = some e) : e.FailsOnly P := by
  unfold effectOf at h
  dsimp only at h
  split at h
  · cases h; trivial
  · cases h; exact changesOf_failsOnly hP _
  · cases h; trivial
  · cases h; trivial
  · cases h; trivial
  · cases h; exact planOf_failsOnly hP _
  · cases h

theorem effectsOf_failsOnly (v : Value) : ∀ e ∈ effectsOf v, Effect.FailsOnly P e := by
  intro e he
  obtain ⟨w, -, hw⟩ := List.mem_filterMap.1 he
  exact effectOf_failsOnly hP hw

theorem pageOf_failsOnly (v : Value) : (pageOf v).FailsOnly P where
  elements := elementsOf_failsOnly hP _
  onClick x hx := by
    obtain ⟨e, -, rfl⟩ := List.mem_map.1 hx
    exact effectsOf_failsOnly hP e.2
  routes x hx elements h := by
    obtain ⟨e, -, rfl⟩ := List.mem_map.1 hx
    obtain ⟨w, -, rfl⟩ := Option.map_eq_some_iff.1 h
    exact elementsOf_failsOnly hP w
  plan := planOf_failsOnly hP _

/-- Every browser that is described has only such failures in store as can be described. -/
theorem worldOf_failsOnly (v : Value) : (worldOf v).FailsOnly P where
  pages p hp := by
    have hpages : p ∈ pagesOf v := hp
    unfold pagesOf at hpages
    split at hpages
    · rw [List.mem_singleton.1 hpages]
      exact .blank "main"
    · obtain ⟨w, -, rfl⟩ := List.mem_map.1 hpages
      exact pageOf_failsOnly hP w
  plan := planOf_failsOnly hP _
  onSleep := effectsOf_failsOnly hP _

end Description
end BrowserScript.Browser
