/-
BrowserScript.Proofs.Browser.Loss — the browser says that the session is gone.

A script that goes on after the session is lost would take the silence of the browser for an answer: an
element that is not there, a page without a form, an address that stays. Refusals are handled in many
places, so each of these places has to let the loss through.

* `Exchange.Loss`: the browser refuses a request, or to tell whether an element can be seen, and says that
  the session is gone.
* `FailStop`: the first such exchange is the last one of all, and the script fails with the loss.
* `failStop_composed`, `failStop_flow`: every composed script and every composed flow is so, by induction
  on the composition; `failStop_look` is the one case with something to look at, since a look consists of
  two requests with a handler each.

Main statement: `failStop_builtIn`. Every built-in action stops at the loss, signing in included.
-/
import BrowserScript.Proofs.Text.Searching
import BrowserScript.Proofs.Vocabulary.Composition

namespace BrowserScript

open Browser

/-! ## §1 Losses -/

/-- The failures that a loss of the session leads to: the wording of the browser, or a loss of the driver in
the place of a handled refusal. -/
inductive Failure.Lost : Failure → Prop
  | driver (text : String) : Lost (.driver text)
  | browser {text : String} (htext : tellsLoss text = true) : Lost (.browser text)

/-- The browser says that the session is gone: it refuses a request, or the element that it has found
cannot be asked whether it can be seen. -/
inductive Browser.Exchange.Loss (x : Exchange) : Prop
  | refused {text : String} (hreply : x.reply = .error (.browser text))
      (htext : Failure.tellsLoss text = true) : Loss x
  | unseen {selector : String} {timeout : Int} {e : Element} {text : String}
      (hx : x = ⟨.page (.probe selector timeout), .ok e⟩)
      (he : e.visibilityFailure = some (.browser text)) (htext : Failure.tellsLoss text = true) : Loss x

/-- A loss is the last thing that is exchanged, and what it ends is lost. -/
inductive Browser.FailStop {α : Type} : List Exchange → Except Failure α → Prop
  | unharmed {t : List Exchange} {r : Except Failure α} (ht : ∀ x ∈ t, ¬ x.Loss) : FailStop t r
  | stopped {t : List Exchange} {x : Exchange} {e : Failure} (ht : ∀ y ∈ t, ¬ y.Loss) (hx : x.Loss)
      (he : e.Lost) : FailStop (t ++ [x]) (.error e)

namespace Browser

variable {α β : Type} {t u : List Exchange} {e : Failure}

namespace FailStop

theorem nil (r : Except Failure α) : FailStop [] r := .unharmed (List.forall_mem_nil _)

/-- Whoever goes on has met no loss. -/
theorem no_loss {a : α} (h : FailStop t (.ok a)) : ∀ x ∈ t, ¬ x.Loss := by
  cases h with
  | unharmed ht => exact ht

/-- A failure that is not that of a loss comes without one. -/
theorem no_loss_of_not_lost (h : FailStop t (.error e : Except Failure α)) (he : ¬ e.Lost) :
    ∀ x ∈ t, ¬ x.Loss := by
  cases h with
  | unharmed ht => exact ht
  | stopped _ _ hlost => exact absurd hlost he

/-- What fails in the middle fails the whole. -/
theorem error (h : FailStop t (.error e : Except Failure α)) :
    FailStop t (.error e : Except Failure β) := by
  cases h with
  | unharmed ht => exact .unharmed ht
  | stopped ht hx he => exact .stopped ht hx he

theorem append {r : Except Failure α} (ht : ∀ x ∈ t, ¬ x.Loss) (hu : FailStop u r) :
    FailStop (t ++ u) r := by
  cases hu with
  | unharmed hu => exact .unharmed (List.forall_mem_append.2 ⟨ht, hu⟩)
  | stopped hu hx he =>
    rw [← List.append_assoc]
    exact .stopped (List.forall_mem_append.2 ⟨ht, hu⟩) hx he

/-- One exchange that can be a loss only as a refusal. -/
theorem single {q : Question} (hq : q.Direct) (reply : Except Failure q.Reply) :
    FailStop [⟨q, reply⟩] reply := by
  by_cases hloss : Exchange.Loss ⟨q, reply⟩
  · obtain ⟨text, rfl, htext⟩ : ∃ text, reply = .error (.browser text) ∧ Failure.tellsLoss text = true := by
      cases hloss with
      | refused hreply htext => exact ⟨_, hreply, htext⟩
      | unseen hx => cases hx; cases hq
    have hloss : Exchange.Loss ⟨q, .error (.browser text)⟩ := .refused rfl htext
    exact .stopped (List.forall_mem_nil _) hloss (.browser htext)
  · exact .unharmed (fun x hx => by rwa [List.mem_singleton.1 hx])

/-- Exactly where a loss was met, it stands at the end. -/
theorem of_mem {r : Except Failure α} {x : Exchange} (h : FailStop t r) (hx : x ∈ t) (hloss : x.Loss) :
    ∃ before e, t = before ++ [x] ∧ r = .error e ∧ e.Lost := by
  cases h with
  | unharmed ht => exact absurd hloss (ht x hx)
  | stopped ht _ he =>
    rcases List.mem_append.1 hx with hx | hx
    · exact absurd hloss (ht x hx)
    · rw [List.mem_singleton.1 hx]
      exact ⟨_, _, rfl, rfl, he⟩

end FailStop

/-! ## §2 Composed scripts -/

variable {s : Script α}

theorem failStop_bind {f : α → Script β} (hs : s.Ensures FailStop)
    (hf : ∀ a, (f a).Ensures FailStop) : (s >>= f).Ensures FailStop := by
  refine Script.Ensures.bind hs ?_ (fun t e ht => ht.error)
  intro t a ht
  exact (hf a).mono (fun u r hu => .append ht.no_loss hu)

/-- A handler is asked only when nothing is lost; a loss passes through it as a loss. -/
theorem failStop_rescue {handle : Failure → Script α} (hs : s.Ensures FailStop)
    (hlost : ∀ e, e.Lost → ∃ e', handle e = .fail e' ∧ e'.Lost)
    (hother : ∀ e, ¬ e.Lost → (handle e).Ensures FailStop) : (s.rescue handle).Ensures FailStop := by
  refine Script.Ensures.rescue hs (fun t a ht => ht) ?_
  intro t e ht
  by_cases he : e.Lost
  · obtain ⟨e', hhandle, he'⟩ := hlost e he
    rw [hhandle]
    show FailStop (t ++ []) (.error e')
    rw [List.append_nil]
    cases ht with
    | unharmed ht => exact .unharmed ht
    | stopped ht hx _ => exact .stopped ht hx he'
  · exact (hother e he).mono (fun u r hu => .append (ht.no_loss_of_not_lost he) hu)

/-- The loss of the session is no refusal that is handled. -/
theorem onRefusal_lost (handle : Failure → Script α) (he : e.Lost) :
    ∃ e', (Script.fail e).onRefusal handle = .fail e' ∧ e'.Lost := by
  cases he with
  | driver text => exact ⟨_, rfl, .driver text⟩
  | @browser text htext =>
    have hmessage : Failure.tellsLoss (Failure.browser text).message = true := htext
    exact ⟨_, if_pos hmessage, .driver _⟩

theorem failStop_onRefusal {handle : Failure → Script α} (hs : s.Ensures FailStop)
    (hhandle : ∀ e, (handle e).Ensures FailStop) : (s.onRefusal handle).Ensures FailStop := by
  refine failStop_rescue hs (fun e he => onRefusal_lost handle he) ?_
  intro e _
  split
  · split
    · exact FailStop.nil _
    · exact hhandle e
  · exact FailStop.nil _

/-- What follows an exchange without asking anything more. -/
theorem failStop_after {x : Exchange} (hloss : x.Loss → ∃ e, s = .fail e ∧ e.Lost)
    (hasks : s.Asks (fun _ => False)) : s.Ensures (fun t r => FailStop (x :: t) r) := by
  by_cases hx : x.Loss
  · obtain ⟨e, rfl, he⟩ := hloss hx
    exact .stopped (List.forall_mem_nil _) hx he
  · refine hasks.mono ?_
    intro t r ht
    exact .unharmed (List.forall_mem_cons.2 ⟨hx, fun y hy => (ht y hy).elim⟩)

/-- A look stops when the browser refuses to look, and when it refuses to tell what can be seen. -/
theorem failStop_look (timeout : Int) (selector : String) :
    (Target.look timeout selector).Ensures FailStop := by
  rw [Target.look_eq]
  intro reply
  refine failStop_after ?_ ?_
  · rintro (⟨hreply, htext⟩ | ⟨hx, he, htext⟩)
    · dsimp only at hreply
      subst hreply
      obtain ⟨e', hhandled, he'⟩ :=
        onRefusal_lost (fun _ => pure none : Failure → Script (Option Element)) (.browser htext)
      refine ⟨e', ?_, he'⟩
      show ((Script.fail _).onRefusal _ >>= _) = _
      rw [hhandled]
      rfl
    · cases hx
      obtain ⟨e', hhandled, he'⟩ :=
        onRefusal_lost (fun _ => pure false : Failure → Script Bool) (.browser htext)
      refine ⟨e', ?_, he'⟩
      show (Target.isShown _ >>= _) = _
      rw [Target.isShown, Element.shown, he]
      show ((Script.fail _).onRefusal _ >>= _) = _
      rw [hhandled]
      rfl
  · refine .bind (.onRefusal (.bind (.ofExcept reply) fun _ => .done _) fun _ => .done _) ?_
    rintro (_ | e)
    · exact .done _
    · exact .bind (.onRefusal (.ofExcept _) fun _ => .done _) fun _ => .done _

/-- Every composed script stops at the loss. -/
theorem failStop_composed {F : Failure → Prop} (h : s.Composed Question.Direct F) : s.Ensures FailStop := by
  induction h with
  | done a => exact FailStop.nil _
  | fail e => exact FailStop.nil _
  | query hq => exact Script.Ensures.query (fun reply => .single hq reply)
  | look timeout selector => exact failStop_look timeout selector
  | bind _ _ ihs ihf => exact failStop_bind ihs ihf
  | onRefusal _ _ ihs ihh => exact failStop_onRefusal ihs ihh
  | onTimeout _ _ hother ihs iht =>
    refine failStop_rescue ihs ?_ ?_
    · intro e he
      refine ⟨e, hother e ?_, he⟩
      rintro text rfl
      cases he
    · intro e _
      by_cases htimeout : ∃ text, e = .timeout text
      · obtain ⟨text, rfl⟩ := htimeout
        exact iht text
      · rw [hother e (fun text htext => htimeout ⟨text, htext⟩)]
        exact FailStop.nil _

end Browser

/-! ## §3 Signing in -/

namespace SignIn

variable {α : Type} {x : Flow α}

/-- Every composed flow stops at the loss. -/
theorem failStop_flow {F : Failure → Prop} (h : x.Composed Question.Direct F) (a : Attempt) :
    Flow.Ensures x a (fun t v _ => FailStop t v) := by
  induction h generalizing a with
  | pure v => exact .pure (FailStop.nil _)
  | fail fault => exact .fail (FailStop.nil _)
  | lift hs => exact .lift (failStop_composed hs)
  | change f => exact .change (FailStop.nil _)
  | get => exact .get (FailStop.nil _)
  | map g _ ih =>
    refine .map ((ih a).mono ?_)
    intro t v _ ht
    cases v with
    | ok v => exact .unharmed ht.no_loss
    | error e => exact ht.error
  | bind _ _ ihx ihf =>
    refine .bind (ihx a) ?_ (fun t e _ ht => ht.error)
    intro t v a' ht
    exact (ihf v a').mono (fun u w _ hu => .append ht.no_loss hu)

end SignIn

/-! ## §4 Actions -/

namespace Vocabulary

theorem failStop_signInAs (intent : Option SignIn.Intent) (s : Settings) (params : List String) :
    (signInAs intent s params).Ensures FailStop := by
  rw [signInAs_eq]
  refine failStop_bind (failStop_composed (composed_credentials params (.any 2) fun _ => rfl)) ?_
  intro c
  have hflow := SignIn.failStop_flow ((SignIn.composed_signIn ⟨s.probeTimeout, s.submitWait,
    s.navigationTimeout⟩ c intent).mono (fun q hq => hq.1) (fun _ _ => trivial)) { intent := intent }
  exact ensures_signedIn hflow (fun _ _ ht => .unharmed ht.no_loss) (fun _ _ _ ht => ht.error)

/-- Every built-in action stops at the loss. -/
theorem failStop_builtIn {spec : Instruction.ActionSpec Handler} (hspec : spec ∈ builtInSpecs)
    (s : Settings) (params : List String) : (spec.handler s params).Ensures FailStop := by
  rcases composed_builtIn spec hspec with hpublic | ⟨-, htype | hsubmit | ⟨intent, hsign⟩⟩
  · exact failStop_composed ((hpublic _ s params (.any _)).mono (fun q hq => hq.1) (fun _ he => he))
  · rw [htype]
    exact failStop_composed (.bind (composed_typeInto s params (.any 2)) fun _ => .done _)
  · rw [hsubmit]
    exact failStop_composed (.bind (composed_typeInto s params (.any 2)) fun _ =>
      .bind (.query rfl) fun _ => .done _)
  · rw [hsign]
    exact failStop_signInAs intent s params

end Vocabulary
end BrowserScript
