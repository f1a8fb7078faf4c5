/-
BrowserScript.Proofs.SignIn.UsualPaths — which addresses an attempt visits.

An attempt that finds no form on its page and none behind a link goes through the usual paths of the site. These are
its only visits. `PathSearch` holds the run up to there, and `PathSearch.probing` the exchanges with the paths.

* `Flow.GoesOn`: a flow that visits nothing and forgets no stage. Every part of an attempt but the search for a form
  is one.
* `pathSearch?` finds the search of a run through the paths, if it has one.
* `PathSearch.Decides`: the search decides how the flow around it ends, unless it has led to a form. Flows that go on
  keep this (`Decides.bind`), so it holds of the whole attempt.
* `authenticate_unvisited`: an attempt without such a search visits nothing.

Main statement: `authenticate_visits`. `authenticate_visits_shop` is a shop whose first path shows no form and whose
second one does.
-/
import BrowserScript.Proofs.SignIn.FormSearch
import BrowserScript.Proofs.SignIn.Visits

namespace BrowserScript.SignIn

open Browser

/-! ## §1 Flows that visit nothing -/

/-- A flow that visits nothing and forgets no stage. -/
def Flow.GoesOn {α : Type} (x : Flow α) : Prop :=
  ∀ a, Flow.Ensures x a (fun t _ a' => visited t = [] ∧ a.history <+: a'.history)

namespace Flow.GoesOn

variable {α β : Type}

theorem pure (v : α) : Flow.GoesOn (Pure.pure v : Flow α) := fun _ => .pure ⟨rfl, List.prefix_refl _⟩

theorem lift {s : Script α} (h : s.Asks (·.visits? = none)) : Flow.GoesOn (Flow.lift s) := fun _ =>
  .lift (h.mono fun _ _ ht => ⟨visited_eq_nil ht, List.prefix_refl _⟩)

/-- A composed script that visits nothing on its own visits nothing. -/
theorem composed {F : Failure → Prop} {s : Script α} (h : s.Composed (·.visits? = none) F) :
    Flow.GoesOn (Flow.lift s) :=
  .lift (h.toAsks fun _ _ => rfl)

theorem change {f : Attempt → Attempt} (h : ∀ a, (f a).history = a.history) :
    Flow.GoesOn (modify f : Flow Unit) := fun a =>
  .change ⟨rfl, (h a).symm ▸ List.prefix_refl _⟩

theorem get : Flow.GoesOn (MonadState.get : Flow Attempt) := fun _ => .get ⟨rfl, List.prefix_refl _⟩

theorem advance (s : Stage) : Flow.GoesOn (Flow.advance s) := fun _ => .advance ⟨rfl, List.prefix_append _ _⟩

theorem bind {x : Flow α} {f : α → Flow β} (hx : x.GoesOn) (hf : ∀ v, (f v).GoesOn) : (x >>= f).GoesOn := by
  intro a
  refine .bind (hx a) ?_ (fun _ _ _ h => h)
  rintro t v b ⟨hquiet, hgrows⟩
  refine (hf v b).mono ?_
  rintro u _ b' ⟨hquiet', hgrows'⟩
  exact ⟨by rw [visited_append, hquiet, hquiet', List.append_nil], hgrows.trans hgrows'⟩

theorem map (g : α → β) {x : Flow α} (hx : x.GoesOn) : (g <$> x).GoesOn := fun a => .map (hx a)

theorem visited_eq {x : Flow α} (hx : x.GoesOn) (a : Attempt) (m : Machine) (page : String) :
    visited ((Flow.on x a).transcript m page) = [] := by
  obtain ⟨v, a', -, -, hquiet, -⟩ := (hx a).runs m page
  exact hquiet

end Flow.GoesOn

/-- A composed flow visits nothing when neither part does, the second one after the first one has run. -/
theorem Flow.visited_bind {α β : Type} {x : Flow α} {f : α → Flow β} {a : Attempt} {m : Machine} {page : String}
    (hx : visited ((Flow.on x a).transcript m page) = [])
    (hf : ∀ v a₁ m₁, (Flow.on x a).run m page = (.ok (.ok v, a₁), m₁) →
      visited ((Flow.on (f v) a₁).transcript m₁ page) = []) :
    visited ((Flow.on (x >>= f) a).transcript m page) = [] := by
  rw [Flow.on_bind, Script.transcript_bind, visited_append, hx, List.nil_append]
  rcases hrun : (Flow.on x a).run m page with ⟨e | ⟨e | v, a₁⟩, m₁⟩
  · rfl
  · rfl
  · exact hf v a₁ m₁ hrun

/-! ## §2 The parts of an attempt -/

/-- Follows a link to a form, and tells whether one shows there. -/
def viaLink (p : Patience) (intent : Intent) : Script Bool := do
  if ← clickLink p intent then hasAuthForm else pure false

theorem reachForm_eq (p : Patience) (intent : Intent) :
    reachForm p intent = Flow.lift hasAuthForm >>= fun here =>
      if here then Flow.advance .onAuthPage
      else Flow.advance .findingAuthLink >>= fun _ => Flow.lift (viaLink p intent) >>= fun linked =>
        if linked then Flow.advance .onAuthPage
        else Flow.lift (probePaths p intent) >>= fun found =>
          if found then Flow.advance .onAuthPage else Flow.fail (.noForm intent) := rfl

section GoesOn

variable (p : Patience) (c : Credentials)

theorem hasAuthForm_goesOn : (Flow.lift hasAuthForm).GoesOn := .composed (composed_hasAuthForm rfl)

theorem viaLink_goesOn (intent : Intent) : (Flow.lift (viaLink p intent)).GoesOn := by
  refine .composed (.bind (composed_clickLink (K := (·.visits? = none)) (fun _ => rfl) rfl intent) ?_)
  intro clicked
  split
  · exact composed_hasAuthForm rfl
  · exact .done _

theorem siteComesFirst_goesOn (requested : Option Intent) : (siteComesFirst requested).GoesOn := by
  unfold siteComesFirst
  split
  · exact .pure _
  · exact .pure _
  · exact .map _ hasAuthForm_goesOn

theorem trySite_goesOn : (trySite p c).GoesOn := by
  have hsequence : (siteSequence p c).Composed (·.visits? = none) Failure.Accident :=
    composed_siteSequence (K := (·.visits? = none)) rfl (fun _ => rfl) (fun _ _ => rfl) (fun _ => rfl) c
  refine .bind (.composed hsequence) ?_
  intro found
  cases found with
  | none => exact .pure _
  | some domain => exact .bind (.change fun _ => rfl) fun _ => .pure _

theorem earlySite_goesOn (siteFirst : Bool) : (earlySite p c siteFirst).GoesOn := by
  unfold earlySite
  split
  · exact trySite_goesOn p c
  · exact .pure _

theorem detect_goesOn (requested : Option Intent) : (detect requested).GoesOn := by
  have hintent : (formIntent requested).GoesOn := by
    cases requested with
    | some intent => exact .pure _
    | none => exact .composed (composed_inferIntent rfl)
  refine .bind (.advance _) fun _ => .bind hintent fun _ => .bind (.change fun _ => rfl) fun _ => ?_
  exact .bind (.advance _) fun _ => .bind (.lift (.query rfl)) fun _ => .pure _

theorem fillIn_goesOn (standing : Standing) : (fillIn p c standing).GoesOn := by
  cases standing with
  | settled start => exact .pure _
  | atForm intent before siteTried =>
    have hsite : (lateSite p c intent siteTried).GoesOn := by
      unfold lateSite
      split
      · exact trySite_goesOn p c
      · exact .pure _
    refine .bind hsite ?_
    intro bySite
    split
    · exact .pure _
    · exact .bind (.composed (composed_fillForm (fun _ _ => rfl) p c intent)) fun _ => .pure _

theorem finish_goesOn (bySite : Bool) (before : String) : (finish p bySite before).GoesOn := by
  have hsend : (send p bySite).GoesOn := by
    unfold send
    split
    · exact .pure _
    · have hsubmit := composed_submitForm (K := (·.visits? = none)) (fun _ => rfl) (fun _ _ => rfl) p
      exact .bind .get fun _ => .bind (.composed (hsubmit _)) fun _ => .change fun _ => rfl
  have hwait : (Flow.lift (waitForNavigation p before)).GoesOn := .composed (composed_waitForNavigation rfl rfl)
  refine .bind (.advance _) fun _ => .bind hsend fun _ => .bind hwait fun _ => ?_
  exact .bind (.lift (.query rfl)) fun _ => .bind (.change fun _ => rfl) fun _ => .advance _

end GoesOn

/-! ## §3 The search through the paths -/

variable {p : Patience} {c : Credentials} {requested : Option Intent} {m : Machine} {page : String}

/-- The run of an attempt up to where it goes through the usual paths: neither its page nor a link led to a form. -/
structure PathSearch (p : Patience) (c : Credentials) (requested : Option Intent) (m : Machine) (page : String)
    extends FormSearch p c requested m page where
  /-- the machine when the page is known to show no form -/
  atLink : Machine
  /-- the machine after the link -/
  atPaths : Machine
  formless : hasAuthForm.run atSearch page = (.ok false, atLink)
  linkless : (viaLink p (requested.getD .login)).run atLink page = (.ok false, atPaths)

/-- The search of a run through the paths. -/
def pathSearch? (p : Patience) (c : Credentials) (requested : Option Intent) (m : Machine) (page : String) :
    Option (PathSearch p c requested m page) :=
  (formSearch? p c requested m page).bind fun r =>
    match hformless : hasAuthForm.run r.atSearch page with
    | (.ok false, atLink) =>
      match hlinkless : (viaLink p (requested.getD .login)).run atLink page with
      | (.ok false, atPaths) => some { r with atLink, atPaths, formless := hformless, linkless := hlinkless }
      | _ => none
    | _ => none

namespace PathSearch

/-- The exchanges up to the paths. -/
def toPaths (r : PathSearch p c requested m page) : List Exchange :=
  r.toSearch ++ (hasAuthForm.transcript r.atSearch page ++
    (viaLink p (requested.getD .login)).transcript r.atLink page)

/-- The exchanges with the paths. -/
def probing (r : PathSearch p c requested m page) : List Exchange :=
  (probePaths p (requested.getD .login)).transcript r.atPaths page

/-- Whether the paths led to a form. -/
def result (r : PathSearch p c requested m page) : Except Failure Bool :=
  ((probePaths p (requested.getD .login)).run r.atPaths page).1

theorem probing_eq (r : PathSearch p c requested m page) : ∃ visits,
    r.probing = ⟨.url, .ok (address r.atPaths page)⟩ :: visits ∧
    ProbedFrom p (requested.getD .login) (address r.atPaths page) visits r.result := by
  have h := (probeFrom_probedFrom p (requested.getD .login) (address r.atPaths page)).run r.atPaths page
  rw [probing, result, probePaths_eq]
  exact ⟨_, rfl, h⟩

theorem visited_toPaths (r : PathSearch p c requested m page) : visited r.toPaths = [] := by
  have hfirst := (siteComesFirst_goesOn requested).visited_eq { intent := requested } m page
  have hsite := (earlySite_goesOn p c r.siteFirst).visited_eq r.asked r.atSite page
  have hforms := hasAuthForm_goesOn.visited_eq r.seeking r.atSearch page
  have hlink := (viaLink_goesOn p (requested.getD .login)).visited_eq r.seeking r.atLink page
  rw [Flow.transcript_lift] at hforms hlink
  simp [toPaths, FormSearch.toSearch, hfirst, hsite, hforms, hlink]

/-- What the search means for a flow that it is a part of, with the exchanges before the flow: nothing else is
visited, and the outcome is that of the search unless this has led to a form. -/
structure Decides (r : PathSearch p c requested m page) (before : List Exchange) {α : Type} (t : List Exchange)
    (v : Except Failure α) (a : Attempt) : Prop where
  visits : ∃ rest, before ++ t = r.toPaths ++ r.probing ++ rest ∧ visited rest = []
  found : r.result = .ok true → [.notOnAuthPage, .findingAuthLink, .onAuthPage] <+: a.history
  missed : r.result = .ok false → v = .error (.signIn (.noForm (requested.getD .login)))
  escaped : ∀ e, r.result = .error e → v = .error e

namespace Decides

variable {r : PathSearch p c requested m page} {α β : Type} {before t u : List Exchange} {a b : Attempt}

/-- A flow goes on only where the search has led to a form. -/
theorem goesOn {v : α} {w : Except Failure β} (h : r.Decides before t (.ok v) a) (hquiet : visited u = [])
    (hgrows : a.history <+: b.history) : r.Decides before (t ++ u) w b where
  visits := by
    obtain ⟨rest, hsplit, hrest⟩ := h.visits
    refine ⟨rest ++ u, ?_, by rw [visited_append, hrest, hquiet, List.append_nil]⟩
    rw [← List.append_assoc, hsplit, List.append_assoc]
  found hfound := (h.found hfound).trans hgrows
  missed hmissed := nomatch h.missed hmissed
  escaped e he := nomatch h.escaped e he

theorem fails {e : Failure} (h : r.Decides before t (.error e : Except Failure α) a) :
    r.Decides before t (.error e : Except Failure β) a where
  visits := h.visits
  found := h.found
  missed hmissed := congrArg Except.error (Except.error.inj (h.missed hmissed))
  escaped e' he := congrArg Except.error (Except.error.inj (h.escaped e' he))

theorem bind {x : Flow α} {f : α → Flow β} {m₁ : Machine} (hx : Flow.Runs x a m₁ page (r.Decides before))
    (hf : ∀ v, (f v).GoesOn) : Flow.Runs (x >>= f) a m₁ page (r.Decides before) := by
  refine Flow.Runs.bind hx ?_ (fun _ _ _ h => h.fails)
  intro t v b m₂ h
  refine ((hf v b).runs m₂ page).mono ?_
  rintro u w b' ⟨hquiet, hgrows⟩
  exact h.goesOn hquiet hgrows

end Decides

theorem probing_decides (r : PathSearch p c requested m page) :
    Flow.Runs (Flow.lift (probePaths p (requested.getD .login)) >>= fun found =>
        if found then Flow.advance .onAuthPage else Flow.fail (.noForm (requested.getD .login)))
      (r.seeking.advance .findingAuthLink) r.atPaths page (r.Decides r.toPaths) := by
  rcases hrun : (probePaths p (requested.getD .login)).run r.atPaths page with ⟨e | found, m₁⟩
  · have hresult : r.result = .error e := congrArg Prod.fst hrun
    refine .bind_lift_of_error hrun ?_
    exact ⟨⟨[], (List.append_nil _).symm, rfl⟩, by simp [hresult], by simp [hresult], by simp [hresult]⟩
  · have hresult : r.result = .ok found := congrArg Prod.fst hrun
    have hvisits : ∃ rest, r.toPaths ++ (r.probing ++ []) = r.toPaths ++ r.probing ++ rest ∧ visited rest = [] :=
      ⟨[], (List.append_assoc _ _ _).symm, rfl⟩
    refine .bind_lift_of_run hrun ?_
    cases found with
    | true =>
      refine (Flow.Ensures.advance ⟨hvisits, fun _ => ?_, by simp [hresult], by simp [hresult]⟩).runs m₁ page
      show _ <+: r.seeking.history ++ [.findingAuthLink] ++ [.onAuthPage]
      rw [r.seeking_eq]
      exact List.prefix_refl _
    | false =>
      exact (Flow.Ensures.fail ⟨hvisits, by simp [hresult], fun _ => rfl, by simp [hresult]⟩).runs m₁ page

theorem reachForm_decides (r : PathSearch p c requested m page) :
    Flow.Runs (reachForm p (requested.getD .login)) r.seeking r.atSearch page (r.Decides r.toSearch) := by
  rw [reachForm_eq]
  refine .bind_lift_of_run r.formless (.bind_of_run rfl (.bind_lift_of_run r.linkless ?_))
  refine r.probing_decides.mono ?_
  intro t v a' h
  have hvisits := h.visits
  rw [toPaths, List.append_assoc, List.append_assoc] at hvisits
  exact { h with visits := hvisits }

theorem approach_decides (r : PathSearch p c requested m page) :
    Flow.Runs (approach p c requested) { intent := requested } m page (r.Decides []) := by
  have hform : Flow.Runs (reachForm p (requested.getD .login) >>= fun _ => detect requested >>= fun q =>
        pure (.atForm q.1 q.2 r.siteFirst) : Flow Standing) r.seeking r.atSearch page (r.Decides r.toSearch) :=
    Decides.bind r.reachForm_decides fun _ => .bind (detect_goesOn requested) fun _ => .pure _
  unfold approach
  refine .bind_lift_of_run (run_url m page) (.bind_of_run r.decided (.bind_of_run r.unsettled ?_))
  refine hform.mono ?_
  intro t v a' h
  have hvisits := h.visits
  rw [FormSearch.toSearch, List.cons_append, List.append_assoc] at hvisits
  exact { h with visits := hvisits }

/-- The search through the paths decides how the attempt goes on. -/
theorem signIn_decides (r : PathSearch p c requested m page) :
    Flow.Runs (signIn p c requested) { intent := requested } m page (r.Decides []) := by
  rw [signIn_eq]
  exact Decides.bind r.approach_decides fun standing =>
    .bind (fillIn_goesOn p c standing) fun q => finish_goesOn p q.1 q.2

end PathSearch

/-! ## §4 The visits of an attempt -/

/-- An attempt ends as its flow does, and passes one more stage at most. -/
theorem authenticate_of_signIn {Q : List Exchange → Except Failure Unit → Attempt → Prop}
    (h : Flow.Runs (signIn p c requested) { intent := requested } m page Q) : ∃ v a a' m',
      (authenticate p c requested).run m page = (.ok (v, a'), m') ∧
      Q ((authenticate p c requested).transcript m page) v a ∧ a.history <+: a'.history := by
  obtain ⟨v, a, m', hrun, hQ⟩ := h
  rw [authenticate_transcript, authenticate_eq, Script.run_bind, hrun]
  cases v with
  | ok v => exact ⟨.ok v, a, a, m', rfl, hQ, List.prefix_refl _⟩
  | error e => exact ⟨.error e, a, a.advance .failed, m', rfl, hQ, List.prefix_append _ _⟩

/-- Where the page shows no form, looking for one visits nothing unless the link leads to none either. -/
theorem reachForm_unvisited {intent : Intent} {a : Attempt}
    (h : ∀ atLink atPaths, hasAuthForm.run m page = (.ok false, atLink) →
      (viaLink p intent).run atLink page ≠ (.ok false, atPaths)) :
    visited ((Flow.on (reachForm p intent) a).transcript m page) = [] := by
  rw [reachForm_eq]
  refine Flow.visited_bind (hasAuthForm_goesOn.visited_eq a m page) ?_
  intro here b atLink hlooked
  obtain ⟨rfl, hhere⟩ := Flow.run_lift_eq_ok.1 hlooked
  cases here with
  | true => exact (Flow.GoesOn.advance .onAuthPage).visited_eq _ _ _
  | false =>
    show visited ((Flow.on (Flow.lift (viaLink p intent) >>= _) (b.advance .findingAuthLink)).transcript
      atLink page) = []
    refine Flow.visited_bind ((viaLink_goesOn p intent).visited_eq _ atLink page) ?_
    intro linked b' atPaths hfollowed
    obtain ⟨-, hlinked⟩ := Flow.run_lift_eq_ok.1 hfollowed
    cases linked with
    | true => exact (Flow.GoesOn.advance .onAuthPage).visited_eq _ _ _
    | false => exact absurd hlinked (h atLink atPaths hhere)

theorem approach_unvisited (h : IsEmpty (PathSearch p c requested m page)) :
    visited ((Flow.on (approach p c requested) { intent := requested }).transcript m page) = [] := by
  unfold approach
  refine Flow.visited_bind ((Flow.GoesOn.lift (.query rfl)).visited_eq _ m page) ?_
  intro start b m₁ hstart
  obtain ⟨rfl, hurl⟩ := Flow.run_lift_eq_ok.1 hstart
  rw [run_url] at hurl
  cases hurl
  refine Flow.visited_bind ((siteComesFirst_goesOn requested).visited_eq _ m page) ?_
  intro siteFirst asked atSite hdecided
  refine Flow.visited_bind ((earlySite_goesOn p c siteFirst).visited_eq _ atSite page) ?_
  intro settled seeking atSearch hunsettled
  cases settled with
  | true =>
    have hgoesOn : (modify (fun a => { a with intent := some .login }) >>= fun _ =>
        Flow.advance .onAuthPage >>= fun _ => Flow.advance .fillingFields >>= fun _ =>
        pure (.settled (address m page)) : Flow Standing).GoesOn :=
      .bind (.change fun _ => rfl) fun _ => .bind (.advance _) fun _ => .bind (.advance _) fun _ => .pure _
    exact hgoesOn.visited_eq _ _ _
  | false =>
    have hsearch : ∀ atLink atPaths, hasAuthForm.run atSearch page = (.ok false, atLink) →
        (viaLink p (requested.getD .login)).run atLink page ≠ (.ok false, atPaths) :=
      fun atLink atPaths hformless hlinkless =>
        h.false ⟨⟨siteFirst, asked, atSite, seeking, atSearch, hdecided, hunsettled⟩, atLink, atPaths, hformless,
          hlinkless⟩
    refine Flow.visited_bind (reachForm_unvisited hsearch) ?_
    intro _ b m₁ _
    have hgoesOn : (detect requested >>= fun q => pure (.atForm q.1 q.2 siteFirst) : Flow Standing).GoesOn :=
      .bind (detect_goesOn requested) fun _ => .pure _
    exact hgoesOn.visited_eq _ _ _

/-- An attempt that does not come to the paths visits nothing. -/
theorem authenticate_unvisited (h : IsEmpty (PathSearch p c requested m page)) :
    visited ((authenticate p c requested).transcript m page) = [] := by
  rw [authenticate_transcript, signIn_eq]
  refine Flow.visited_bind (approach_unvisited h) ?_
  intro standing b m₁ _
  have hgoesOn : (fillIn p c standing >>= fun q => finish p q.1 q.2).GoesOn :=
    .bind (fillIn_goesOn p c standing) fun q => finish_goesOn p q.1 q.2
  exact hgoesOn.visited_eq _ _ _

/-- An attempt visits nothing unless it goes through the usual paths, which it does where its page shows no form, no
known site settles it and no link leads to a form. Then its visits are a beginning of the usual addresses for the
address that the page has after the link, in the order of the table. The exchanges are those of `ProbedFrom`: refused
visits are passed over, and the visits end at the first page that shows a form, where the attempt comes to the stage
for that, unless a failure escapes before and is the outcome. When all addresses are visited and none shows a form,
the attempt fails, and the failure is about the form. -/
theorem authenticate_visits (p : Patience) (c : Credentials) (requested : Option Intent) (m : Machine)
    (page : String) :
    (IsEmpty (PathSearch p c requested m page) → visited ((authenticate p c requested).transcript m page) = []) ∧
    ∀ r : PathSearch p c requested m page, ∃ visits outcome a m',
      r.toPaths ++ r.probing <+: (authenticate p c requested).transcript m page ∧
      r.probing = ⟨.url, .ok (address r.atPaths page)⟩ :: visits ∧
      visited ((authenticate p c requested).transcript m page) = visited visits ∧
      visited visits <+: usualAddresses (requested.getD .login) (address r.atPaths page) ∧
      ProbedFrom p (requested.getD .login) (address r.atPaths page) visits r.result ∧
      (authenticate p c requested).run m page = (.ok (outcome, a), m') ∧
      (r.result = .ok true → [.notOnAuthPage, .findingAuthLink, .onAuthPage] <+: a.history) ∧
      (r.result = .ok false → visited visits = usualAddresses (requested.getD .login) (address r.atPaths page) ∧
        outcome = .error (.signIn (.noForm (requested.getD .login))) ∧
        (SignInFault.noForm (requested.getD .login)).field = "form") ∧
      (∀ e, r.result = .error e → outcome = .error e) := by
  refine ⟨authenticate_unvisited, fun r => ?_⟩
  obtain ⟨visits, hprobing, hprobed⟩ := r.probing_eq
  obtain ⟨hbeginning, hall⟩ := hprobed.visited_prefix
  obtain ⟨outcome, a, a', m', hrun, hdecides, hgrows⟩ := authenticate_of_signIn r.signIn_decides
  obtain ⟨rest, hsplit, hquiet⟩ := hdecides.visits
  rw [List.nil_append] at hsplit
  have hvisited : visited ((authenticate p c requested).transcript m page) = visited visits := by
    rw [hsplit, hprobing, visited_append, visited_append, r.visited_toPaths, visited_url, hquiet, List.nil_append,
      List.append_nil]
  refine ⟨visits, outcome, a', m', ⟨rest, hsplit.symm⟩, hprobing, hvisited, hbeginning, hprobed, hrun, ?_, ?_,
    hdecides.escaped⟩
  · exact fun hfound => (hdecides.found hfound).trans hgrows
  · exact fun hmissed => ⟨hall hmissed, hdecides.missed hmissed, rfl⟩

/-- The shop without its links. Its page for customers is the second one of the usual ones. -/
def barePage : Page := { shopPage with url := "https://shop.example/home", elements := [] }

/-- A browser that shows the shop without its links and nothing else. -/
def bareMachine : Machine := { shopMachine with world := { pages := [barePage], context := ["main"] } }

set_option maxRecDepth 100000 in
theorem bare_search :
    (pathSearch? {} someCredentials (some .login) bareMachine "main").any (fun r =>
      visited r.probing == ["https://shop.example/login", "https://shop.example/signin"] &&
        r.result.toOption == some true) = true := by
  decide +kernel

theorem authenticate_visits_shop :
    ∃ (r : PathSearch {} someCredentials (some .login) bareMachine "main") (outcome : Except Failure Unit)
      (a : Attempt) (m' : Machine),
      (authenticate {} someCredentials (some .login)).run bareMachine "main" = (.ok (outcome, a), m') ∧
      visited ((authenticate {} someCredentials (some .login)).transcript bareMachine "main")
        = ["https://shop.example/login", "https://shop.example/signin"] ∧
      r.result = .ok true ∧ [.notOnAuthPage, .findingAuthLink, .onAuthPage] <+: a.history := by
  obtain ⟨r, -, hr⟩ := Option.any_eq_true _ _ |>.1 bare_search
  rw [Bool.and_eq_true] at hr
  obtain ⟨hvisits, hresult⟩ := hr
  have hfound : r.result = .ok true := by
    cases h : r.result with
    | error e => rw [h] at hresult; cases hresult
    | ok found => rw [h] at hresult; rw [Option.some.inj (eq_of_beq hresult)]
  obtain ⟨visits, outcome, a, m', -, hprobing, hvisited, -, -, hrun, hhistory, -⟩ :=
    (authenticate_visits {} someCredentials (some .login) bareMachine "main").2 r
  rw [hprobing, visited_url] at hvisits
  exact ⟨r, outcome, a, m', hrun, hvisited.trans (eq_of_beq hvisits), hfound, hhistory hfound⟩

end BrowserScript.SignIn
