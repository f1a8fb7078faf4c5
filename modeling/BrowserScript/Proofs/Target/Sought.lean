/-
BrowserScript.Proofs.Target.Sought — what is exchanged while selectors are tried.

Trying selectors one after the other makes one request for each of them. What is answered decides everything, and
it is known of each selector that was passed over why: no element, none that can be seen, or none that is accepted.
Nothing is supposed here about the browser, which may refuse a request in any way.

* `Looked`: one look, by the answer to its request.
* `PassedOver`: why a selector was passed over.

Main statement: `resolve_sought`. The exchanges of a search are those with the selectors in their order, up to the
one that is taken or that ends the search.
-/
import Mathlib.Data.List.Forall2
import BrowserScript.Proofs.Target.Findings

namespace BrowserScript

open Browser

namespace Target

/-! ## §1 One look -/

/-- Whether nobody sees an element: it cannot be seen, or the browser refuses to tell. -/
def Unseen (e : Element) : Prop := e.shown = .ok false ∨ ∃ f, e.shown = .error f ∧ f.escapes = none

/-- A look at a selector, which is one exchange, and its result. -/
inductive Looked (timeout : Int) (selector : String) :
    Exchange → Except Failure (Option (Element × Bool)) → Prop
  | absent {e : Failure} (he : e.escapes = none) :
      Looked timeout selector ⟨.page (.probe selector timeout), .error e⟩ (.ok none)
  | unseen {e : Element} (he : Unseen e) :
      Looked timeout selector ⟨.page (.probe selector timeout), .ok e⟩ (.ok (some (e, false)))
  | seen {e : Element} (he : e.shown = .ok true) :
      Looked timeout selector ⟨.page (.probe selector timeout), .ok e⟩ (.ok (some (e, true)))
  | escaped {reply : Except Failure Element} {e : Failure} :
      Looked timeout selector ⟨.page (.probe selector timeout), reply⟩ (.error e)

theorem isShown_ensures (e : Element) :
    (isShown e).Ensures (fun t r => t = [] ∧ ∀ shown, r = .ok shown →
      if shown then e.shown = .ok true else Unseen e) := by
  unfold isShown
  cases hshown : e.shown with
  | ok shown =>
    refine ⟨rfl, ?_⟩
    rintro _ ⟨⟩
    cases shown with
    | true => simp
    | false => exact .inl hshown
  | error f =>
    show ((Script.fail f).onRefusal _).Ensures _
    rw [Script.onRefusal_fail]
    cases hescapes : f.escapes with
    | some f' => exact ⟨rfl, nofun⟩
    | none =>
      refine ⟨rfl, ?_⟩
      rintro _ ⟨⟩
      exact .inr ⟨f, hshown, hescapes⟩

theorem look_looked (timeout : Int) (selector : String) :
    (look timeout selector).Ensures (fun t r => ∃ x, t = [x] ∧ Looked timeout selector x r) := by
  rw [look_eq]
  intro reply
  cases reply with
  | error e =>
    show ((Script.fail e).onRefusal _ >>= _).Ensures _
    rw [Script.onRefusal_fail]
    cases hescapes : e.escapes with
    | some e' => exact ⟨_, rfl, .escaped⟩
    | none => exact ⟨_, rfl, .absent hescapes⟩
  | ok e =>
    show (isShown e >>= fun shown => Script.done (some (e, shown))).Ensures _
    refine .bind (isShown_ensures e) ?_ ?_
    · rintro _ shown ⟨rfl, hshown⟩
      have he := hshown shown rfl
      cases shown with
      | true => exact ⟨_, rfl, .seen he⟩
      | false => exact ⟨_, rfl, .unseen he⟩
    · rintro _ f ⟨rfl, -⟩
      exact ⟨_, rfl, .escaped⟩

/-! ## §2 A search -/

/-- The exchange with a selector that was passed over: there is no element, or the browser refuses to look; or
there is one that nobody sees; or there is one that can be seen and is refused. -/
inductive PassedOver (timeout : Int) (Refused : Element → Prop) (selector : String) : Exchange → Prop
  | absent {e : Failure} (he : e.escapes = none) :
      PassedOver timeout Refused selector ⟨.page (.probe selector timeout), .error e⟩
  | unseen {e : Element} (he : Unseen e) :
      PassedOver timeout Refused selector ⟨.page (.probe selector timeout), .ok e⟩
  | refused {e : Element} (hshown : e.shown = .ok true) (he : Refused e) :
      PassedOver timeout Refused selector ⟨.page (.probe selector timeout), .ok e⟩

/-- How a search ends, by its exchanges. Before the last one of these all selectors were passed over. -/
inductive Sought (timeout : Int) (Refused : Element → Prop) (selectors : List String) :
    List Exchange → Except Failure Resolution → Prop
  | taken {better worse : List String} {selector : String} {looks : List Exchange} {e : Element}
      {r : Resolution} (hsplit : selectors = better ++ selector :: worse)
      (hbetter : List.Forall₂ (PassedOver timeout Refused) better looks) (hshown : e.shown = .ok true)
      (haccepted : ¬ Refused e) (hr : r.selector = some selector) :
      Sought timeout Refused selectors (looks ++ [⟨.page (.probe selector timeout), .ok e⟩]) (.ok r)
  | exhausted {looks : List Exchange} {r : Resolution}
      (hall : List.Forall₂ (PassedOver timeout Refused) selectors looks) (hr : r.selector = none) :
      Sought timeout Refused selectors looks (.ok r)
  | escaped {better worse : List String} {selector : String} {looks : List Exchange}
      {reply : Except Failure Element} {e : Failure} (hsplit : selectors = better ++ selector :: worse)
      (hbetter : List.Forall₂ (PassedOver timeout Refused) better looks) :
      Sought timeout Refused selectors (looks ++ [⟨.page (.probe selector timeout), reply⟩]) (.error e)

variable {timeout : Int} {Refused : Element → Prop} {accept : Element → Bool}

/-- A selector that is passed over comes before the rest of the search. -/
theorem Sought.after {selector : String} {rest : List String} {x : Exchange} {t : List Exchange}
    {r : Except Failure Resolution} (h : Sought timeout Refused rest t r)
    (hx : PassedOver timeout Refused selector x) : Sought timeout Refused (selector :: rest) ([x] ++ t) r := by
  cases h with
  | taken hsplit hbetter hshown haccepted hr =>
    rw [← List.append_assoc]
    exact .taken (congrArg _ hsplit) (.cons hx hbetter) hshown haccepted hr
  | exhausted hall hr => exact .exhausted (.cons hx hall) hr
  | escaped hsplit hbetter =>
    rw [← List.append_assoc]
    exact .escaped (congrArg _ hsplit) (.cons hx hbetter)

theorem resolveFrom_sought (haccept : ∀ e, accept e = true ↔ ¬ Refused e) (selectors : List String)
    {r : Resolution} (hr : r.selector = none) :
    (resolveFrom timeout accept r selectors).Ensures (Sought timeout Refused selectors) := by
  induction selectors generalizing r with
  | nil => exact .exhausted .nil hr
  | cons selector rest ih =>
    rw [resolveFrom_cons]
    refine .bind (look_looked timeout selector) ?_ ?_
    · rintro _ found ⟨x, rfl, hlooked⟩
      cases hlooked with
      | absent he =>
        refine .mono (ih ?_) fun t v h => h.after (.absent he)
        exact hr
      | unseen he =>
        simp only [Bool.not_false, if_true]
        refine .mono (ih ?_) fun t v h => h.after (.unseen he)
        exact hr
      | @seen e he =>
        cases haccepted : accept e with
        | false =>
          have hrefused : Refused e := not_not.1 fun h => by simp [(haccept e).2 h] at haccepted
          simp only [haccepted, Bool.not_true, Bool.not_false, Bool.false_eq_true, if_false, if_true]
          refine .mono (ih ?_) fun t v h => h.after (.refused he hrefused)
          exact hr
        | true =>
          simp only [haccepted, Bool.not_true, Bool.false_eq_true, if_false]
          show Sought timeout Refused (selector :: rest) ([] ++ [_]) _
          exact .taken rfl .nil he ((haccept e).1 haccepted) rfl
    · rintro _ e ⟨x, rfl, hlooked⟩
      cases hlooked
      show Sought timeout Refused (selector :: rest) ([] ++ [_]) _
      exact .escaped rfl .nil

/-- Selectors are looked for in order, each with one exchange, until an element is taken, until a failure ends the
search or until there are no more. Those before the last one were passed over, for the reason that their exchanges
show. -/
theorem resolve_sought (haccept : ∀ e, accept e = true ↔ ¬ Refused e) (selectors : List String) :
    (resolve timeout selectors accept).Ensures (Sought timeout Refused selectors) :=
  resolveFrom_sought haccept selectors rfl

end Target
end BrowserScript
