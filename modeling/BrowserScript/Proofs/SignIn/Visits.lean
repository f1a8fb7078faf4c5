/-
BrowserScript.Proofs.SignIn.Visits — going through addresses until one shows a form.

Visiting an address is one request, and a second one asks for the forms of the page. What is answered to these
decides everything; nothing is supposed about where a visit ends.

* `Visit`: one address, by the answers to its requests.
* `Probed`: addresses in their order, up to the first one that shows a form or from which a failure escapes. Those
  before it were refused or show no form. The step is `Probed.after`.
* `visitPaths_probed`: whatever is answered, addresses are gone through in this way.
* `usualAddresses`: the addresses that belong to the address of a page.

Main statement: `probeFrom_probedFrom`. From the address of a page on, its usual addresses are gone through. The
visits are a beginning of them (`ProbedFrom.visited_prefix`).
-/
import BrowserScript.Proofs.Target.Sought
import BrowserScript.SignIn.Engine

namespace BrowserScript

/-- The address that a question visits. -/
def Browser.Question.visits? : Browser.Question → Option String
  | .page (.goto target _) => some target
  | _ => none

namespace SignIn

open Browser

/-! ## §1 Visits -/

/-- The addresses that are visited in a transcript. -/
def visited (t : List Exchange) : List String := t.filterMap (·.question.visits?)

@[simp] theorem visited_nil : visited [] = [] := rfl

@[simp] theorem visited_append (t u : List Exchange) : visited (t ++ u) = visited t ++ visited u :=
  List.filterMap_append

@[simp] theorem visited_url (reply : Except Failure String) (t : List Exchange) :
    visited (⟨.url, reply⟩ :: t) = visited t := rfl

theorem visited_eq_nil {t : List Exchange} (h : ∀ x ∈ t, x.question.visits? = none) : visited t = [] :=
  List.filterMap_eq_nil_iff.2 h

/-- What is found out about the forms of a page, by its answer to the question for them. A refusal counts as no
form. -/
def shownForms : Except Failure Value → Except Failure Bool
  | .ok forms =>
    match itemsOf forms >>= anyAuthForm with
    | .ok found => .ok found
    | .error fault => .error (.ordinary fault)
  | .error e =>
    match e.escapes with
    | some e' => .error e'
    | none => .ok false

/-- Looking for a form is one request. -/
theorem hasAuthForm_eq : hasAuthForm = .ask (.page .forms) fun reply => .ofExcept (shownForms reply) := by
  refine congrArg (Script.ask (.page .forms)) (funext fun reply => ?_)
  cases reply with
  | ok forms =>
    show (match itemsOf forms >>= anyAuthForm with
      | .ok found => Script.done found
      | .error e => Script.fault e) = _
    simp only [shownForms]
    cases itemsOf forms >>= anyAuthForm <;> rfl
  | error e =>
    show (((Script.fail e : Script (Option Value)).onRefusal fun _ => .done none) >>= _) = _
    rw [Script.onRefusal_fail]
    simp only [shownForms]
    cases e.escapes <;> rfl

theorem hasAuthForm_asked :
    hasAuthForm.Ensures (fun t r => ∃ reply, t = [⟨.page .forms, reply⟩] ∧ r = shownForms reply) := by
  rw [hasAuthForm_eq]
  exact fun reply => .ofExcept ⟨reply, rfl, rfl⟩

/-- One address: its exchanges, and whether its page shows a form. A refused visit counts as no form. -/
inductive Visit (p : Patience) (url : String) : List Exchange → Except Failure Bool → Prop
  | refused {e : Failure} (he : e.escapes = none) :
      Visit p url [⟨.page (.goto url p.navigation), .error e⟩] (.ok false)
  | escaped {e e' : Failure} (he : e.escapes = some e') :
      Visit p url [⟨.page (.goto url p.navigation), .error e⟩] (.error e')
  | looked (status : Value) (forms : Except Failure Value) :
      Visit p url [⟨.page (.goto url p.navigation), .ok status⟩, ⟨.page .forms, forms⟩] (shownForms forms)

theorem Visit.visited_eq {p : Patience} {url : String} {t : List Exchange} {r : Except Failure Bool}
    (h : Visit p url t r) : visited t = [url] := by
  cases h <;> rfl

/-- Addresses one after the other. Those before the last one show no form; at the last one a form shows or a failure
escapes, or there are no more addresses. -/
inductive Probed (p : Patience) (urls : List String) : List Exchange → Except Failure Bool → Prop
  | ended {before after : List String} {url : String} {formless : List (List Exchange)} {last : List Exchange}
      {r : Except Failure Bool} (hsplit : urls = before ++ url :: after)
      (hbefore : List.Forall₂ (Visit p · · (.ok false)) before formless) (hlast : Visit p url last r)
      (hr : r ≠ .ok false) : Probed p urls (formless.flatten ++ last) r
  | exhausted {formless : List (List Exchange)} (hall : List.Forall₂ (Visit p · · (.ok false)) urls formless) :
      Probed p urls formless.flatten (.ok false)

namespace Probed

variable {p : Patience} {url : String} {urls : List String} {t u : List Exchange} {r : Except Failure Bool}

/-- An address without a form comes before the others. -/
theorem after (h : Probed p urls u r) (hvisit : Visit p url t (.ok false)) : Probed p (url :: urls) (t ++ u) r := by
  cases h with
  | @ended before rest next _ _ _ hsplit hbefore hlast hr =>
    have hsplit' : url :: urls = url :: before ++ next :: rest := congrArg (url :: ·) hsplit
    rw [← List.append_assoc]
    exact .ended hsplit' (.cons hvisit hbefore) hlast hr
  | exhausted hall => exact .exhausted (.cons hvisit hall)

theorem first (hvisit : Visit p url t r) (hr : r ≠ .ok false) : Probed p (url :: urls) t r := by
  have hsplit : url :: urls = [] ++ url :: urls := rfl
  exact .ended hsplit .nil hvisit hr

end Probed

theorem visited_flatten {p : Patience} {urls : List String} {formless : List (List Exchange)}
    (h : List.Forall₂ (Visit p · · (.ok false)) urls formless) : visited formless.flatten = urls := by
  induction h with
  | nil => rfl
  | cons hvisit _ ih => rw [List.flatten_cons, visited_append, hvisit.visited_eq, ih, List.singleton_append]

/-- The visits are a beginning of the addresses, and all of them where no form showed. -/
theorem Probed.visited_prefix {p : Patience} {urls : List String} {t : List Exchange} {r : Except Failure Bool}
    (h : Probed p urls t r) : visited t <+: urls ∧ (r = .ok false → visited t = urls) := by
  cases h with
  | @ended before after url formless last r hsplit hbefore hlast hr =>
    rw [visited_append, visited_flatten hbefore, hlast.visited_eq, hsplit]
    exact ⟨⟨after, by simp⟩, fun h => absurd h hr⟩
  | exhausted hall =>
    rw [visited_flatten hall]
    exact ⟨List.prefix_refl _, fun _ => rfl⟩

/-- The first address is visited, and the others only where its page shows no form. -/
theorem visitPaths_cons (p : Patience) (url : String) (rest : List String) :
    visitPaths p (url :: rest) = .ask (.page (.goto url p.navigation)) fun
      | .ok _ => hasAuthForm >>= fun here => if here then .done true else visitPaths p rest
      | .error e =>
        match e.escapes with
        | some e' => .fail e'
        | none => visitPaths p rest := by
  refine congrArg (Script.ask (.page (.goto url p.navigation))) (funext fun reply => ?_)
  cases reply with
  | ok status => rfl
  | error e =>
    show (((Script.fail e : Script Bool).onRefusal fun _ => .done false) >>= _) = _
    rw [Script.onRefusal_fail]
    dsimp only
    cases e.escapes <;> rfl

/-- Going through addresses: whatever is answered, each one is visited and looked at before the next one. -/
theorem visitPaths_probed (p : Patience) (urls : List String) : (visitPaths p urls).Ensures (Probed p urls) := by
  induction urls with
  | nil => exact .exhausted .nil
  | cons url rest ih =>
    rw [visitPaths_cons]
    intro reply
    cases reply with
    | error e =>
      dsimp only
      cases hescapes : e.escapes with
      | some e' => exact .first (.escaped hescapes) nofun
      | none => exact ih.mono fun t r h => h.after (.refused hescapes)
    | ok status =>
      have hvisit : ∀ forms, Visit p url [⟨.page (.goto url p.navigation), .ok status⟩, ⟨.page .forms, forms⟩]
          (shownForms forms) := .looked status
      refine .bind hasAuthForm_asked ?_ ?_
      · rintro _ here ⟨forms, rfl, hshown⟩
        have hhere := hvisit forms
        rw [← hshown] at hhere
        cases here with
        | true => exact .first hhere nofun
        | false => exact ih.mono fun t r h => h.after hhere
      · rintro _ e ⟨forms, rfl, hshown⟩
        have hfails := hvisit forms
        rw [← hshown] at hfails
        exact .first hfails nofun

/-! ## §2 The addresses -/

/-- The usual addresses of the site of a page: the scheme and the authority of the address of the page, followed by
the paths. There are none unless the address is one of the web, with an authority. -/
def usualAddresses (intent : Intent) (url : String) : List String :=
  match Address.parse url with
  | .error _ => []
  | .ok address =>
    if (address.scheme = "http" ∨ address.scheme = "https") ∧ address.authority ≠ "" then
      intent.paths.map (fun path => address.scheme ++ "://" ++ address.authority ++ path)
    else []

/-- The exchanges with the paths, once the address of the page is known. An address that cannot be taken apart ends
the search, and everything else is gone through. -/
inductive ProbedFrom (p : Patience) (intent : Intent) (url : String) : List Exchange → Except Failure Bool → Prop
  | unparsed {fault : Fault} (hfault : Address.parse url = .error fault) :
      ProbedFrom p intent url [] (.error (.ordinary fault))
  | parsed {address : Address} {t : List Exchange} {r : Except Failure Bool}
      (haddress : Address.parse url = .ok address) (h : Probed p (usualAddresses intent url) t r) :
      ProbedFrom p intent url t r

theorem ProbedFrom.visited_prefix {p : Patience} {intent : Intent} {url : String} {t : List Exchange}
    {r : Except Failure Bool} (h : ProbedFrom p intent url t r) :
    visited t <+: usualAddresses intent url ∧ (r = .ok false → visited t = usualAddresses intent url) := by
  cases h with
  | unparsed hfault => exact ⟨List.nil_prefix, nofun⟩
  | parsed haddress h => exact h.visited_prefix

/-- Looks for a form at the usual paths of the site of an address. -/
def probeFrom (p : Patience) (intent : Intent) (url : String) : Script Bool :=
  match Address.parse url with
  | .error e => Script.fault e
  | .ok address =>
    match originOf address with
    | none => pure false
    | some origin => visitPaths p (intent.paths.map (origin ++ ·))

/-- The address of the page is asked for once, before the first visit. -/
theorem probePaths_eq (p : Patience) (intent : Intent) :
    probePaths p intent = Script.url >>= probeFrom p intent := rfl

theorem probeFrom_probedFrom (p : Patience) (intent : Intent) (url : String) :
    (probeFrom p intent url).Ensures (ProbedFrom p intent url) := by
  unfold probeFrom
  cases haddress : Address.parse url with
  | error fault => exact .unparsed haddress
  | ok address =>
    have hprobed : (match originOf address with
        | none => pure false
        | some origin => visitPaths p (intent.paths.map (origin ++ ·)) : Script Bool).Ensures
        (Probed p (usualAddresses intent url)) := by
      rw [usualAddresses, haddress]
      by_cases hweb : (address.scheme = "http" ∨ address.scheme = "https") ∧ address.authority ≠ ""
      · rw [originOf, if_pos (by simpa using hweb)]
        simp only [if_pos hweb]
        exact visitPaths_probed p _
      · rw [originOf, if_neg (by simpa using hweb)]
        simp only [if_neg hweb]
        exact .exhausted .nil
    exact hprobed.mono fun _ _ h => .parsed haddress h

end SignIn
end BrowserScript
