/-
BrowserScript.Proofs.Vocabulary.Raising — where the failures of an action come from.

An action fails with what it was told, or with a failure that it raises itself. `Script.Raises F` says that a
script which is told of failures of a kind `F` only fails with one of that kind. It is closed under every way
of composition (`raises_composed`, `raises_flow`), so an action that raises mishaps only declines nothing.

`Script.Considerate` is about the others: what they decline they have declined before they changed anything.
An action is considerate if what it asks first only reads (`Considerate.reading`) and what comes after raises
mishaps only (`Considerate.composed`, `Considerate.then_composed`).

Main statement: `considerate_builtIn`. Every built-in action is considerate.
-/
import BrowserScript.Proofs.Browser.Store
import BrowserScript.Proofs.Vocabulary.Composition

namespace BrowserScript

open Browser
open Failure (Mishap)

variable {α β : Type} {F : Failure → Prop}

/-! ## §1 Failures that are passed on -/

namespace Browser

/-- Told of failures of a kind only, the script fails with one of that kind. -/
def Script.Raises (F : Failure → Prop) (s : Script α) : Prop :=
  s.Ensures (fun t r => (∀ x ∈ t, x.Within F) → ∀ e, r = .error e → F e)

namespace Script.Raises

variable {s : Script α}

theorem done (a : α) : (Script.done a).Raises F := nofun

theorem fail {e : Failure} (he : F e) : (Script.fail e : Script α).Raises F := by
  rintro - _ ⟨⟩
  exact he

theorem ofExcept {r : Except Failure α} (h : ∀ e, r = .error e → F e) : (Script.ofExcept r).Raises F :=
  Ensures.ofExcept fun _ => h

/-- Only answers of the kind count. -/
theorem ask {q : Question} {next : Except Failure q.Reply → Script α}
    (h : ∀ reply, Exchange.Within F ⟨q, reply⟩ → (next reply).Raises F) : (Script.ask q next).Raises F := by
  intro reply
  by_cases hwithin : Exchange.Within F ⟨q, reply⟩
  · refine Ensures.mono (h reply hwithin) ?_
    intro t r ht hall
    exact ht fun x hx => hall x (List.mem_cons_of_mem _ hx)
  · exact Ensures.of_forall _ fun t r hall => absurd (hall _ List.mem_cons_self) hwithin

theorem query (q : Question) : (Script.query q).Raises F :=
  .ask fun _ hwithin => .ofExcept hwithin.reply

theorem bind {f : α → Script β} (hs : s.Raises F) (hf : ∀ a, (f a).Raises F) : (s >>= f).Raises F := by
  refine Ensures.bind hs ?_ ?_
  · intro t a _
    refine (hf a).mono ?_
    intro u r hu hwithin e he
    exact hu (fun x hx => hwithin x (List.mem_append_right _ hx)) e he
  · rintro t e ht hwithin _ ⟨⟩
    exact ht hwithin e rfl

/-- A handler is asked for failures of the kind only. -/
theorem rescue {handle : Failure → Script α} (hs : s.Raises F) (hh : ∀ e, F e → (handle e).Raises F) :
    (s.rescue handle).Raises F := by
  refine Ensures.rescue hs (fun _ _ _ _ => nofun) ?_
  intro t e ht
  by_cases he : F e
  · refine (hh e he).mono ?_
    intro u r hu hwithin
    exact hu fun x hx => hwithin x (List.mem_append_right _ hx)
  · refine Ensures.of_forall _ ?_
    intro u r hwithin
    exact absurd (ht (fun x hx => hwithin x (List.mem_append_left _ hx)) e rfl) he

theorem onRefusal (hdriver : ∀ text, F (.driver text)) {handle : Failure → Script α} (hs : s.Raises F)
    (hh : ∀ e, (handle e).Raises F) : (s.onRefusal handle).Raises F := by
  refine hs.rescue ?_
  intro e he
  split
  · split
    · exact fail (hdriver _)
    · exact hh e
  · exact fail he

/-- A script that is run on a machine with only failures of the kind in store fails with one of these. -/
theorem of_run (h : s.Raises F) (hF : Usual F) (hsecret : SecretsFail F) {m m' : Machine} {page : String}
    (hstore : m.world.FailsOnly F) {e : Failure} (hrun : s.run m page = (.error e, m')) : F e := by
  have hraised := Ensures.run h m page
  rw [hrun] at hraised
  exact hraised (fun x hx => transcript_within hF hstore page s x hx fun _ _ => hsecret) e rfl

end Script.Raises

/-- A look fails only as the driver or with what was kept from it. -/
theorem raises_look (hdriver : ∀ text, F (.driver text)) (timeout : Int) (selector : String) :
    (Target.look timeout selector).Raises F := by
  rw [Target.look_eq]
  refine .ask fun reply hwithin => ?_
  cases reply with
  | ok e =>
    have hshown : ∀ f, e.shown = .error f → F f := by
      intro f hf
      unfold Element.shown at hf
      split at hf
      · rename_i hkept
        cases hf
        exact hwithin.element selector timeout e rfl _ hkept
      · cases hf
    show (Target.isShown e >>= fun shown => .done (some (e, shown))).Raises F
    exact .bind (.onRefusal hdriver (.ofExcept hshown) fun _ => .done _) fun _ => .done _
  | error e =>
    show ((if e.isBrowser then
        if Failure.tellsLoss e.message then .fail (.driver ("Browser session is gone: " ++ e.message))
        else .done none
      else .fail e : Script (Option Element)) >>= _).Raises F
    split
    · split
      · exact .fail (hdriver _)
      · exact .done _
    · exact .fail (hwithin.reply e rfl)

/-- What is composed of failures of a kind raises no others. -/
theorem raises_composed {K : Question → Prop} {s : Script α} (hdriver : ∀ text, F (.driver text))
    (h : s.Composed K F) : s.Raises F := by
  induction h with
  | done a => exact .done a
  | fail he => exact .fail he
  | query hq => exact .query _
  | look timeout selector => exact raises_look hdriver timeout selector
  | bind _ _ ihs ihf => exact ihs.bind ihf
  | onRefusal _ _ ihs ihh => exact ihs.onRefusal hdriver ihh
  | onTimeout _ _ hother ihs iht =>
    refine ihs.rescue ?_
    intro e he
    by_cases htimeout : ∃ text, e = .timeout text
    · obtain ⟨text, rfl⟩ := htimeout
      exact iht text
    · rw [hother e (fun text htext => htimeout ⟨text, htext⟩)]
      exact .fail he

end Browser

namespace SignIn

/-- A flow composed of failures of a kind raises no others, if those of signing in are of the kind. -/
theorem raises_flow {K : Question → Prop} {x : Flow α} (hdriver : ∀ text, F (.driver text))
    (hsignIn : ∀ fault, F (.signIn fault)) (h : x.Composed K F) (a : Attempt) :
    Flow.Ensures x a (fun t v _ => (∀ y ∈ t, y.Within F) → ∀ e, v = .error e → F e) := by
  induction h generalizing a with
  | pure v => exact .pure fun _ => nofun
  | fail fault =>
    refine .fail ?_
    rintro - _ ⟨⟩
    exact hsignIn fault
  | lift hs => exact .lift (raises_composed hdriver hs)
  | change f => exact .change fun _ => nofun
  | get => exact .get fun _ => nofun
  | map g _ ih =>
    refine .map ((ih a).mono ?_)
    intro t v _ ht hwithin e he
    cases v with
    | ok v => cases he
    | error e' =>
      cases he
      exact ht hwithin e rfl
  | bind _ _ ihx ihf =>
    refine .bind (ihx a) ?_ ?_
    · intro t v b _
      refine (ihf v b).mono ?_
      intro u w _ hu hwithin
      exact hu fun y hy => hwithin y (List.mem_append_right _ hy)
    · rintro t e b ht hwithin _ ⟨⟩
      exact ht hwithin e rfl

end SignIn

/-! ## §2 Considerate scripts -/

namespace Browser

/-- Nothing that a script was told declines; about secrets anything may be told. -/
def Undeclined (t : List Exchange) : Prop := ∀ x ∈ t, x.question.tellsSecret = false → x.Within Mishap

theorem undeclined_append {t u : List Exchange} : Undeclined (t ++ u) ↔ Undeclined t ∧ Undeclined u :=
  List.forall_mem_append

/-- Whenever the script declines, and nothing that it was told has done so, it has only read. -/
structure Script.Considerate (s : Script α) : Prop where
  ensures : s.Ensures (fun t r => Undeclined t → ∀ e, r = .error e → e.declines = true →
    ∀ x ∈ t, x.question.reads = true)

/-- The script fails with mishaps only, if nothing that it was told declines. -/
def Script.Obliging (s : Script α) : Prop :=
  s.Ensures (fun t r => Undeclined t → ∀ e, r = .error e → e.Mishap)

variable {s : Script α}

theorem obliging_composed (h : s.Composed Question.Public Mishap) : s.Obliging := by
  have hraises : s.Raises Mishap := raises_composed (fun _ => rfl) h
  have hasks : s.Asks (·.tellsSecret = false) := h.asks (fun _ hq => hq.2) (fun _ _ => rfl)
  refine (Script.Ensures.and hraises hasks).mono ?_
  rintro t r ⟨hmishap, hpublic⟩ htold
  exact hmishap fun x hx => htold x hx (hpublic x hx)

namespace Script.Considerate

theorem fail (e : Failure) : (Script.fail e : Script α).Considerate := ⟨fun _ _ _ _ => List.forall_mem_nil _⟩

theorem obliging (h : s.Obliging) : s.Considerate := by
  refine ⟨Ensures.mono h ?_⟩
  intro t r ht htold e he hdeclines
  cases (ht htold e he).symm.trans hdeclines

/-- What is composed of public questions and of mishaps declines nothing. -/
theorem composed (h : s.Composed Question.Public Mishap) : s.Considerate := .obliging (obliging_composed h)

/-- After reading, the rest may still decline. -/
theorem reading {f : α → Script β} (hs : s.Composed (·.reads = true)) (hf : ∀ a, (f a).Considerate) :
    (s >>= f).Considerate := by
  have hasks : s.Asks (·.reads = true) := hs.asks (fun _ hq => hq) (fun _ _ => rfl)
  refine ⟨Ensures.bind hasks ?_ (fun t e ht _ _ _ _ => ht)⟩
  intro t a ht
  refine (hf a).ensures.mono ?_
  intro u r hu htold e he hdeclines
  have hlater := hu (undeclined_append.1 htold).2 e he hdeclines
  exact List.forall_mem_append.2 ⟨ht, hlater⟩

/-- After what may have changed something, the rest must not decline any more. -/
theorem then_composed {f : α → Script β} (hs : s.Considerate)
    (hf : ∀ a, (f a).Composed Question.Public Mishap) : (s >>= f).Considerate := by
  refine ⟨Ensures.bind hs.ensures ?_ ?_⟩
  · intro t a _
    refine Ensures.mono (obliging_composed (hf a)) ?_
    intro u r hu htold e he hdeclines
    cases (hu (undeclined_append.1 htold).2 e he).symm.trans hdeclines
  · rintro t e ht htold _ ⟨⟩ hdeclines
    exact ht htold e rfl hdeclines

end Script.Considerate
end Browser

/-! ## §3 Built-in actions -/

namespace Vocabulary

open Target
open Question (Public)

variable (s : Settings) (params : List String)

theorem considerate_onTarget {request : String → Script Unit}
    (hrequest : ∀ selector, (request selector).Composed Public Mishap) :
    (onTarget request s params).Considerate :=
  .reading (composed_target s params (.any 1) (by decide)) fun selector =>
    .composed (.bind (hrequest selector) fun _ => .done _)

theorem considerate_typeInto : (typeInto s params).Considerate :=
  .reading (composed_target s params (.any 2) (by decide)) fun _ =>
    .reading (composed_param params (.any 2) (by decide)) fun _ =>
    .reading (.query rfl) fun _ => .composed (.bind (.query ⟨rfl, rfl⟩) fun _ =>
    .bind (.query ⟨rfl, rfl⟩) fun _ => .done _)

theorem considerate_typeText : (typeText s params).Considerate :=
  .then_composed (considerate_typeInto s params) fun _ => .done _

theorem considerate_typeAndSubmit : (typeAndSubmit s params).Considerate :=
  .then_composed (considerate_typeInto s params) fun _ => .bind (.query ⟨rfl, rfl⟩) fun _ => .done _

theorem considerate_wait : (wait s params).Considerate :=
  .reading (composed_param params (.any 1) (by decide)) fun _ =>
    .reading (.ofExcept _ fun _ _ => trivial) fun _ => .composed (.bind (.query ⟨rfl, rfl⟩) fun _ => .done _)

theorem considerate_selectOption : (selectOption s params).Considerate := by
  refine .reading (composed_target s params (.any 2) (by decide)) fun selector =>
    .reading (composed_param params (.any 2) (by decide)) fun option =>
    .reading (.query rfl) ?_
  intro part
  cases part with
  | none => exact .fail _
  | some part => exact .composed (.bind (.query ⟨rfl, rfl⟩) fun _ => .done _)

theorem considerate_uploadFile : (uploadFile s params).Considerate := by
  refine .reading (composed_param params (.any 2) (by decide)) fun written =>
    .reading (.query rfl) fun path => .reading (.query rfl) ?_
  intro isFile
  split
  · exact .fail _
  · exact .reading (composed_target s params (.any 2) (by decide)) fun _ =>
      .composed (.bind (.query ⟨rfl, rfl⟩) fun _ => .done _)

theorem considerate_dragAndDrop : (dragAndDrop s params).Considerate :=
  .reading (composed_target s params (.any 2) (by decide)) fun source =>
    .reading (composed_target s params (.any 2) (by decide)) fun goal =>
    .reading (composed_centre (fun _ _ => trivial) (fun _ => rfl) source) fun _ =>
    .reading (composed_centre (fun _ _ => trivial) (fun _ => rfl) goal) fun _ =>
    .composed (.bind (.query ⟨rfl, rfl⟩) fun _ => .bind (.query ⟨rfl, rfl⟩) fun _ =>
      .bind (.query ⟨rfl, rfl⟩) fun _ => .bind (.query ⟨rfl, rfl⟩) fun _ => .done _)

theorem considerate_smartClick : (smartClick s params).Considerate := by
  refine .reading (composed_param params (.any 1) (by decide)) fun text =>
    .reading (composed_findElements (fun _ _ => trivial) (fun _ _ => rfl) text) ?_
  intro found
  cases found with
  | nil => exact .fail _
  | cons best _ =>
    exact .composed (.bind (composed_foundSelector (fun _ he => he.1) best) fun _ =>
      .bind (.query ⟨rfl, rfl⟩) fun _ => .done _)

theorem considerate_extractText : (extractText s params).Considerate :=
  .reading (composed_target s params (.any 1) (by decide)) fun _ =>
    .composed (.bind (.query ⟨rfl, rfl⟩) fun _ => .done _)

theorem considerate_extractHtml : (extractHtml s params).Considerate :=
  .reading (composed_target s params (.any 1) (by decide)) fun _ =>
    .composed (.bind (.query ⟨rfl, rfl⟩) fun _ => .done _)

theorem considerate_setCookies : (setCookies s params).Considerate :=
  .reading (composed_param params (.any 1) (by decide)) fun _ =>
    .reading (.ofExcept _ fun _ _ => trivial) fun _ =>
    .composed (.bind (.query ⟨rfl, rfl⟩) fun _ => .bind (.query ⟨rfl, rfl⟩) fun _ => .done _)

/-- Once the credentials are known, signing in declines nothing. -/
theorem considerate_signInAs (intent : Option SignIn.Intent) : (signInAs intent s params).Considerate := by
  rw [signInAs_eq]
  refine .reading (composed_credentials params (.any 2) fun _ => rfl) fun c => .obliging ?_
  have hcomposed := (SignIn.composed_signIn ⟨s.probeTimeout, s.submitWait, s.navigationTimeout⟩ c intent).mono
    (fun _ hq => hq) (fun _ he => he.1)
  have hraises := SignIn.raises_flow (fun _ => rfl) (fun _ => rfl) hcomposed { intent := intent }
  have hasks := hcomposed.asks (fun _ hq => hq.2) (fun _ _ => rfl) { intent := intent }
  refine ensures_signedIn (hraises.asking hasks) (fun _ _ _ _ => nofun) ?_
  rintro t e a ⟨ht, hpublic⟩ htold _ ⟨⟩
  exact ht (fun x hx => htold x hx (hpublic x hx)) e rfl

/-- Every built-in action is considerate: it makes sure that it declines nothing before it changes
anything. -/
theorem considerate_builtIn : ∀ spec ∈ builtInSpecs, ∀ s params, (spec.handler s params).Considerate := by
  unfold builtInSpecs
  simp only [List.forall_mem_cons]
  refine ⟨fun s params => .composed (composed_goto s params .mishap),
    fun s params => considerate_onTarget s params fun _ => .query ⟨rfl, rfl⟩,
    considerate_smartClick, considerate_typeAndSubmit, considerate_typeText,
    fun s params => .composed (composed_waitForNavigation s params),
    fun s params => considerate_onTarget s params fun _ => .query ⟨rfl, rfl⟩,
    considerate_wait, fun s params => .composed (composed_screenshot s params fun _ he => he.1),
    considerate_extractText, considerate_extractHtml,
    fun s params => considerate_onTarget s params fun _ => .query ⟨rfl, rfl⟩,
    fun s params => .composed (composed_evaluate s params .mishap), considerate_selectOption,
    fun s params => considerate_onTarget s params fun _ => .query ⟨rfl, rfl⟩,
    fun s params => considerate_onTarget s params fun _ => .query ⟨rfl, rfl⟩,
    fun s params => considerate_onTarget s params fun _ => .query ⟨rfl, rfl⟩,
    fun s params => .composed (composed_pressKey s params .mishap), considerate_uploadFile,
    fun s params => .composed (composed_getCookies s params), considerate_setCookies,
    considerate_dragAndDrop, fun s params => .composed (composed_inspectPage s params fun _ he => he.1),
    fun s params => .composed (composed_findElement s params .mishap),
    fun s params => considerate_onTarget s params fun _ => .query ⟨rfl, rfl⟩,
    fun s params => considerate_signInAs s params _, fun s params => considerate_signInAs s params _,
    fun s params => considerate_signInAs s params _, nofun⟩

end Vocabulary
end BrowserScript
