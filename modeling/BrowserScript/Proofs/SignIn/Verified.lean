/-
BrowserScript.Proofs.SignIn.Verified — what is filled in has been seen to be a form for signing in.

A page is verified by the exchanges so far when the last look at its forms that found one to sign in with
came after every click and every visit (`Verified`).

Main statement: `fill_verified_iff`. An attempt comes to a form by a look at it (`approach_verified`),
and while it fills in the form it asks nothing that moves the page (`fillForm_quiet`). Between the two it
may try a known site. That site asks for no forms (`siteSequence_noForms`), so a page that its sequence
has clicked is no longer verified when the sequence is given up and the form is filled in after all:
`fill_unverified_twoStep` is such an attempt.
-/
import BrowserScript.Proofs.SignIn.FormRoute
import BrowserScript.Proofs.Vocabulary.Composition
import Mathlib.Data.List.Induction

/-! ## §1 Verified pages -/

namespace BrowserScript.Browser

/-- Whether a question may take the page elsewhere: a click or a visit. -/
def Question.moves : Question → Bool
  | .page (.click _) | .page (.clickFound _) | .page (.goto ..) => true
  | _ => false

/-- Whether a question is the one for the forms of the page. -/
def Question.forForms : Question → Bool
  | .page .forms => true
  | _ => false

end BrowserScript.Browser

namespace BrowserScript.SignIn

open Browser

/-- Whether the page has shown a form for signing in. -/
def showsForm : Exchange → Bool
  | ⟨.page .forms, .ok forms⟩ =>
    match itemsOf forms >>= anyAuthForm with
    | .ok found => found
    | .error _ => false
  | _ => false

/-- Exchanges that do not take the page elsewhere. -/
def Stays (t : List Exchange) : Prop := ∀ x ∈ t, x.question.moves = false

theorem stays_append {t u : List Exchange} : Stays (t ++ u) ↔ Stays t ∧ Stays u :=
  List.forall_mem_append

theorem stays_singleton {x : Exchange} : Stays [x] ↔ x.question.moves = false :=
  List.forall_mem_singleton

/-- The page on which an attempt is has shown a form for signing in, and nothing has been clicked or
visited since. -/
def Verified (t : List Exchange) : Prop :=
  ∃ pre x post, t = pre ++ x :: post ∧ showsForm x = true ∧ Stays post

theorem not_verified_nil : ¬ Verified [] := by
  rintro ⟨pre, x, post, heq, -⟩
  exact List.append_ne_nil_of_right_ne_nil pre (List.cons_ne_nil x post) heq.symm

/-- One more exchange: it shows a form itself, or the page was verified before and stays. -/
theorem verified_concat {t : List Exchange} {x : Exchange} :
    Verified (t ++ [x]) ↔ showsForm x = true ∨ Verified t ∧ x.question.moves = false := by
  constructor
  · rintro ⟨pre, y, post, heq, hshows, hstays⟩
    rcases List.eq_nil_or_concat post with hnil | ⟨post', z, hpost⟩
    · rw [hnil] at heq
      obtain ⟨-, hxy⟩ := List.append_inj' heq rfl
      rw [List.singleton_inj.1 hxy]
      exact .inl hshows
    · rw [hpost, List.concat_eq_append] at heq hstays
      have hlast : t ++ [x] = (pre ++ y :: post') ++ [z] := by
        rw [heq, List.append_assoc, List.cons_append]
      obtain ⟨ht, hxz⟩ := List.append_inj' hlast rfl
      rw [List.singleton_inj.1 hxz]
      obtain ⟨hbefore, hz⟩ := stays_append.1 hstays
      exact .inr ⟨⟨pre, y, post', ht, hshows, hbefore⟩, stays_singleton.1 hz⟩
  · rintro (hshows | ⟨⟨pre, y, post, heq, hshows, hstays⟩, hx⟩)
    · exact ⟨t, x, [], rfl, hshows, List.forall_mem_nil _⟩
    · exact ⟨pre, y, post ++ [x], by rw [heq, List.append_assoc, List.cons_append], hshows,
        stays_append.2 ⟨hstays, stays_singleton.2 hx⟩⟩

/-- Exchanges that show no form keep the page verified as long as they do not move it. -/
theorem verified_append {t u : List Exchange} (hu : ∀ x ∈ u, showsForm x = false) :
    Verified (t ++ u) ↔ Verified t ∧ Stays u := by
  induction u using List.reverseRecOn with
  | nil => simp [Stays]
  | append_singleton u x ih =>
    have hx : showsForm x = false := hu x (List.mem_append_right _ (List.mem_singleton_self _))
    rw [← List.append_assoc, verified_concat, hx,
      ih (fun y hy => hu y (List.mem_append_left _ hy))]
    rw [stays_append, stays_singleton, and_assoc]
    simp

theorem Verified.append_left {u : List Exchange} (h : Verified u) (t : List Exchange) :
    Verified (t ++ u) := by
  obtain ⟨pre, x, post, heq, hshows, hstays⟩ := h
  exact ⟨t ++ pre, x, post, by rw [heq, List.append_assoc], hshows, hstays⟩

theorem Verified.append_right {t u : List Exchange} (h : Verified t)
    (hu : Stays u) : Verified (t ++ u) := by
  obtain ⟨pre, x, post, heq, hshows, hstays⟩ := h
  exact ⟨pre, x, post ++ u, by rw [heq, List.append_assoc, List.cons_append], hshows,
    stays_append.2 ⟨hstays, hu⟩⟩

theorem verified_iff_foldl {t : List Exchange} :
    Verified t ↔ t.foldl (fun v x => showsForm x || (v && !x.question.moves)) false = true := by
  induction t using List.reverseRecOn with
  | nil => simp [not_verified_nil]
  | append_singleton t x ih => rw [verified_concat, ih]; simp

instance (t : List Exchange) : Decidable (Verified t) := decidable_of_iff _ verified_iff_foldl.symm

/-! ## §2 Checks -/

theorem showsForm_of_forForms {x : Exchange} (h : x.question.forForms = false) :
    showsForm x = false := by
  unfold showsForm
  split
  · exact absurd h (by simp [Question.forForms])
  · rfl

theorem showsForm_forms (forms : Value) :
    showsForm ⟨.page .forms, .ok forms⟩ = true ↔ itemsOf forms >>= anyAuthForm = .ok true := by
  show (match itemsOf forms >>= anyAuthForm with
    | .ok found => found
    | .error _ => false) = true ↔ _
  cases itemsOf forms >>= anyAuthForm <;> simp

/-- The forms of a page: what it answered to the one question for them. -/
theorem forms_asked :
    ((some <$> Script.page .forms).onRefusal (fun _ => pure none)).Ensures
      (fun t r => Stays t ∧ ∀ forms, r = .ok (some forms) → t = [⟨.page .forms, .ok forms⟩]) := by
  have hpage : (some <$> Script.page .forms).Ensures
      (fun t r => Stays t ∧ ∀ forms, r = .ok (some forms) → t = [⟨.page .forms, .ok forms⟩]) := by
    intro reply
    have hstays : Stays [⟨.page .forms, reply⟩] := stays_singleton.2 rfl
    cases reply with
    | ok forms =>
      refine ⟨hstays, ?_⟩
      intro forms' h
      rw [Option.some.inj (Except.ok.inj h)]
    | error e => exact ⟨hstays, nofun⟩
  refine .onRefusal hpage (fun t a ht => ht) (fun t e e' ht => ⟨ht.1, nofun⟩) ?_
  rintro t e ⟨hstays, -⟩
  exact ⟨(List.append_nil t).symm ▸ hstays, nofun⟩

/-- What the page answers to the question for its forms decides. -/
theorem hasAuthForm_verified :
    hasAuthForm.Ensures (fun t r => Stays t ∧ (r = .ok true → Verified t)) := by
  unfold hasAuthForm
  refine .bind forms_asked ?_ (fun t e ht => ⟨ht.1, nofun⟩)
  rintro t forms? ⟨hstays, hforms⟩
  cases forms? with
  | none => exact ⟨(List.append_nil t).symm ▸ hstays, nofun⟩
  | some forms =>
    cases hfound : itemsOf forms >>= anyAuthForm with
    | error e =>
      simp only [hfound]
      exact ⟨(List.append_nil t).symm ▸ hstays, nofun⟩
    | ok found =>
      simp only [hfound]
      refine ⟨(List.append_nil t).symm ▸ hstays, ?_⟩
      intro htrue
      rw [Except.ok.inj htrue] at hfound
      rw [List.append_nil, hforms forms rfl]
      exact ⟨[], _, [], rfl, (showsForm_forms forms).2 hfound, List.forall_mem_nil _⟩

/-! ## §3 The way to the form -/

/-- Where the answer is that a form was found, the page is verified. -/
def Found (t : List Exchange) (r : Except Failure Bool) : Prop := r = .ok true → Verified t

theorem Found.append_left (t u : List Exchange) (r : Except Failure Bool) (h : Found u r) :
    Found (t ++ u) r :=
  fun htrue => (h htrue).append_left t

theorem found_error (t : List Exchange) (e : Failure) : Found t (.error e) := nofun

/-- Visiting addresses ends well only on a page that shows a form. -/
theorem visitPaths_found (p : Patience) (urls : List String) :
    (visitPaths p urls).Ensures Found := by
  induction urls with
  | nil => exact nofun
  | cons url rest ih =>
    unfold visitPaths
    refine .bind_then Found.append_left found_error ?_
    intro visited
    split
    · refine .bind hasAuthForm_verified ?_ (fun t e _ => found_error t e)
      rintro t here ⟨-, hhere⟩
      split
      · rename_i htrue
        intro _
        rw [List.append_nil]
        exact hhere (by rw [htrue])
      · exact ih.mono (Found.append_left t)
    · exact ih

theorem probePaths_found (p : Patience) (intent : Intent) :
    (probePaths p intent).Ensures Found := by
  unfold probePaths
  refine .bind_then Found.append_left found_error ?_
  intro url
  split
  · exact nofun
  · split
    · exact nofun
    · exact visitPaths_found p _

/-- A form that was reached has been shown, and nothing has been clicked or visited since. -/
theorem reachForm_verified (p : Patience) (intent : Intent) {a : Attempt} :
    Flow.Ensures (reachForm p intent) a (fun t v _ => v = .ok () → Verified t) := by
  have hlink : (do if ← clickLink p intent then hasAuthForm else pure false : Script Bool).Ensures
      Found := by
    refine .bind_then Found.append_left found_error ?_
    intro clicked
    split
    · exact hasAuthForm_verified.mono (fun t r h => h.2)
    · exact nofun
  unfold reachForm
  refine .bind_lift hasAuthForm_verified ?_ (fun _ _ _ => nofun)
  rintro t here ⟨-, hhere⟩
  split
  · rename_i htrue
    refine .advance ?_
    intro _
    rw [List.append_nil]
    exact hhere (by rw [htrue])
  · refine .bind_advance (.bind_lift hlink ?_ (fun _ _ _ => nofun))
    intro u viaLink hviaLink
    split
    · rename_i htrue
      refine .advance ?_
      intro _
      rw [List.append_nil]
      exact (hviaLink (by rw [htrue])).append_left t
    · refine .bind_lift (probePaths_found p intent) ?_ (fun _ _ _ => nofun)
      intro w viaPath hviaPath
      split
      · rename_i htrue
        refine .advance ?_
        intro _
        rw [List.append_nil]
        exact ((hviaPath (by rw [htrue])).append_left u).append_left t
      · exact .fail nofun

/-- Finding out what the form is for leaves the page where it is. -/
theorem detect_stays (requested : Option Intent) {a : Attempt} :
    Flow.Ensures (detect requested) a (fun t _ _ => Stays t) := by
  have hintent : ∀ b : Attempt, Flow.Ensures (formIntent requested) b (fun t _ _ => Stays t) := by
    intro b
    cases requested with
    | some intent => exact .pure (List.forall_mem_nil _)
    | none => exact .lift ((composed_inferIntent (K := (·.moves = false)) rfl).toAsks fun _ _ => rfl)
  unfold detect
  refine .bind_advance (.bind (hintent _) ?_ (fun _ _ _ ht => ht))
  intro t intent b ht
  refine .bind_change (.bind_advance (.bind_lift (P := fun u _ => Stays u) ?_ ?_ ?_))
  · exact Script.Asks.query (K := fun q => q.moves = false) rfl
  · intro u url hu
    exact .pure (stays_append.2 ⟨ht, stays_append.2 ⟨hu, List.forall_mem_nil _⟩⟩)
  · intro u e hu
    exact stays_append.2 ⟨ht, hu⟩

/-- An attempt comes to stand at a form only after the form has been shown. -/
theorem approach_verified (p : Patience) (c : Credentials) (requested : Option Intent)
    {a : Attempt} :
    Flow.Ensures (approach p c requested) a (fun t v _ => ∀ intent before siteTried,
      v = .ok (.atForm intent before siteTried) → Verified t) := by
  unfold approach
  refine .bind_lift (.any _) ?_ (fun _ _ _ => nofun)
  intro t start _
  refine .bind (siteComesFirst_record requested) ?_ (fun _ _ _ _ => nofun)
  rintro u first b -
  refine .bind (earlySite_record p c first) ?_ (fun _ _ _ _ => nofun)
  intro w settled b' _
  split
  · exact .bind_change (.bind_advance (.bind_advance (.pure nofun)))
  · refine .bind (reachForm_verified p _) ?_ (fun _ _ _ _ => nofun)
    intro x _ d hreached
    refine .bind (detect_stays requested) ?_ (fun _ _ _ _ => nofun)
    rintro y ⟨intent, before⟩ d' hstays
    refine .pure ?_
    intro _ _ _ _
    rw [List.append_nil]
    have hverified : Verified (x ++ y) := (hreached rfl).append_right hstays
    exact ((hverified.append_left w).append_left u).append_left t

/-! ## §4 Sites and fields -/

/-- A question that neither moves the page nor asks for its forms. -/
def Quiet (q : Question) : Prop := q.moves = false ∧ q.forForms = false

/-- Filling a form in never moves the page, and it never asks for the forms again. -/
theorem fillForm_quiet (p : Patience) (c : Credentials) (intent : Intent) :
    (fillForm p c intent).Asks Quiet :=
  (composed_fillForm (K := Quiet) (fun _ _ => ⟨rfl, rfl⟩) p c intent).toAsks fun _ _ => ⟨rfl, rfl⟩

/-- The sequence of a site asks for no forms. -/
theorem siteSequence_noForms (p : Patience) (c : Credentials) :
    (siteSequence p c).Asks (fun q => q.forForms = false) := by
  have hsequence := composed_siteSequence (K := (·.forForms = false)) (p := p) rfl (fun _ => rfl)
    (fun _ _ => rfl) (fun _ => rfl) c
  exact hsequence.toAsks fun _ _ => rfl

theorem lateSite_noForms (p : Patience) (c : Credentials) (intent : Intent) (siteTried : Bool)
    {a : Attempt} :
    Flow.Ensures (lateSite p c intent siteTried) a
      (fun t _ _ => ∀ x ∈ t, x.question.forForms = false) := by
  unfold lateSite
  split
  · unfold trySite
    refine .bind_lift (siteSequence_noForms p c) ?_ (fun _ _ ht => ht)
    intro t found ht
    cases found with
    | none => exact .pure ((List.append_nil t).symm ▸ ht)
    | some domain => exact .bind_change (.pure ((List.append_nil t).symm ▸ ht))
  · exact .pure (List.forall_mem_nil _)

/-! ## §5 The first fill -/

namespace FormRoute

variable {p : Patience} {c : Credentials} {requested : Option Intent} {m : Machine} {page : String}

theorem toForm_verified (r : FormRoute p c requested m page) : Verified r.toForm :=
  (approach_verified p c requested).of_run r.approached r.intent r.before r.siteTried rfl

theorem atSite_noForms (r : FormRoute p c requested m page) :
    ∀ x ∈ r.atSite, showsForm x = false := by
  have h := (lateSite_noForms p c r.intent r.siteTried).of_run r.unsettled
  exact fun x hx => showsForm_of_forForms (h x hx)

/-- What is asked while the form is filled in changes nothing about the page being verified. -/
theorem verified_filling (r : FormRoute p c requested m page) {pre post : List Exchange}
    (h : r.filling = pre ++ post) :
    Verified (r.toForm ++ r.atSite ++ pre) ↔ Verified (r.toForm ++ r.atSite) := by
  have hquiet : ∀ x ∈ r.filling, Quiet x.question :=
    (fillForm_quiet p c r.intent).run r.atFields page
  rw [h] at hquiet
  have hpre : ∀ x ∈ pre, Quiet x.question := fun x hx => hquiet x (List.mem_append_left _ hx)
  rw [verified_append (fun x hx => showsForm_of_forForms (hpre x hx).2)]
  exact and_iff_left (fun x hx => (hpre x hx).1)

end FormRoute

/-- An attempt that fills a form in itself does so on a page that is verified exactly when the site tried
at the form, if there was one, was given up before it clicked anything. Trying no site there is one such
case, and so is every attempt for which an intent was asked for. -/
theorem fill_verified_iff (p : Patience) (c : Credentials) (requested : Option Intent) (m : Machine)
    (page : String) (r : FormRoute p c requested m page) :
    r.toForm ++ r.atSite ++ r.filling <+: (authenticate p c requested).transcript m page ∧
    (∀ pre x post, r.filling = pre ++ x :: post → x.question.fills = true →
      (Verified (r.toForm ++ r.atSite ++ pre) ↔ Stays r.atSite)) ∧
    (requested ≠ none → Stays r.atSite) := by
  refine ⟨r.transcript_authenticate, ?_, ?_⟩
  · intro pre x post hfilling _
    rw [r.verified_filling hfilling, verified_append r.atSite_noForms]
    exact and_iff_right r.toForm_verified
  · intro h
    rw [r.atSite_eq_nil h]
    exact List.forall_mem_nil _

/-- The exchanges of a route before its first fill. -/
theorem FormRoute.exists_first_fill {p : Patience} {c : Credentials} {requested : Option Intent}
    {m : Machine} {page : String} (r : FormRoute p c requested m page)
    (h : r.filling.any (fun x => x.question.fills) = true) :
    ∃ pre x post, r.filling = pre ++ x :: post ∧ x.question.fills = true ∧
      ∀ y ∈ pre, y.question.fills = false := by
  obtain ⟨x, hx⟩ := Option.isSome_iff_exists.1 ((List.find?_isSome).2 (List.any_eq_true.1 h))
  obtain ⟨hfills, pre, post, hsplit, hpre⟩ := List.find?_eq_some_iff_append.1 hx
  exact ⟨pre, x, post, hsplit, hfills, fun y hy => by simpa using hpre y hy⟩

set_option maxRecDepth 100000 in
theorem twoStep_route :
    (formRoute? {} someCredentials none twoStepMachine "main").any (fun r =>
      r.filling.any (fun x => x.question.fills) && !decide (Verified (r.toForm ++ r.atSite))) = true := by
  decide +kernel

theorem fill_verified_iff_twoStep :
    ∃ (r : FormRoute {} someCredentials none twoStepMachine "main") (pre : List Exchange) (x : Exchange)
      (post : List Exchange), r.filling = pre ++ x :: post ∧ x.question.fills = true ∧
        (Verified (r.toForm ++ r.atSite ++ pre) ↔ Stays r.atSite) := by
  obtain ⟨r, -, hr⟩ := Option.any_eq_true _ _ |>.1 twoStep_route
  rw [Bool.and_eq_true] at hr
  obtain ⟨pre, x, post, hsplit, hfills, -⟩ := r.exists_first_fill hr.1
  exact ⟨r, pre, x, post, hsplit, hfills,
    (fill_verified_iff {} someCredentials none twoStepMachine "main" r).2.1 pre x post hsplit hfills⟩

/-- On the page of a known site that asks for the password in a second step, the first step is clicked, the
page it leads on to shows no form, and yet it is filled in. -/
theorem fill_unverified_twoStep :
    ∃ (r : FormRoute {} someCredentials none twoStepMachine "main") (pre : List Exchange) (x : Exchange)
      (post : List Exchange), r.filling = pre ++ x :: post ∧ x.question.fills = true ∧
        (∀ y ∈ pre, y.question.fills = false) ∧ ¬ Verified (r.toForm ++ r.atSite ++ pre) := by
  obtain ⟨r, -, hr⟩ := Option.any_eq_true _ _ |>.1 twoStep_route
  rw [Bool.and_eq_true] at hr
  obtain ⟨pre, x, post, hsplit, hfills, hfirst⟩ := r.exists_first_fill hr.1
  refine ⟨r, pre, x, post, hsplit, hfills, hfirst, ?_⟩
  rw [r.verified_filling hsplit]
  simpa using hr.2

end BrowserScript.SignIn
