/-
BrowserScript.Proofs.SignIn.Outcome — what the record of an attempt that is done says.

The intent, the strategy and what sent the form are set at different places of an attempt: a known site sets
the last two when its sequence goes through, before the form is looked for or once it was found, and sending
the form sets the last one again where no site did. What an attempt shows is kept together with its
transcript, in which the beginning of a sequence can be seen: the sequence of a site begins where the element
of its first step is waited for.

* `Question.begins`, `begun`: the sites whose sequences begin in a transcript.
* `siteSequence_trace`: at most one sequence begins, and one that goes through is that of the address just
  asked for.
* `approach_trace`, `fillIn_trace`, `finish_record`: the three parts of an attempt. Two places may try a site,
  but the second one does so only where the first did not.

Main statement: `authenticate_coherent`.
-/
import BrowserScript.Proofs.SignIn.TwoAttempts

namespace BrowserScript

open Browser

/-! ## §1 The beginning of a sequence -/

/-- The known site whose first step is on an element. -/
def SignIn.siteFrom (selector : String) : Option SignIn.Site :=
  SignIn.sites.find? (fun site => site.steps.head?.map (·.selector) == some selector)

/-- The known site whose sequence a question begins: it waits for the element of the first step. -/
def Browser.Question.begins : Question → Option SignIn.Site
  | .page (.waitVisible selector _) => SignIn.siteFrom selector
  | _ => none

namespace SignIn

/-- The known sites whose sequences begin in a transcript. -/
def begun (t : List Exchange) : List Site := t.filterMap (·.question.begins)

@[simp] theorem begun_nil : begun [] = [] := rfl

@[simp] theorem begun_cons (x : Exchange) (t : List Exchange) :
    begun (x :: t) = x.question.begins.toList ++ begun t := by
  cases h : x.question.begins <;> simp [begun, h]

@[simp] theorem begun_append (t u : List Exchange) : begun (t ++ u) = begun t ++ begun u :=
  List.filterMap_append

/-- The sequence of a site begins in a transcript right after the page told an address of that site. -/
def BegunFor (site : Site) (t : List Exchange) : Prop :=
  ∃ before url x after, t = before ++ ⟨.url, .ok url⟩ :: x :: after ∧
    siteFor url = .ok (some site) ∧ x.question.begins = some site

theorem BegunFor.append_left {site : Site} {t : List Exchange} (h : BegunFor site t) (u : List Exchange) :
    BegunFor site (u ++ t) := by
  obtain ⟨before, url, x, after, rfl, hsite, hbegins⟩ := h
  exact ⟨u ++ before, url, x, after, by simp, hsite, hbegins⟩

theorem BegunFor.append_right {site : Site} {t : List Exchange} (h : BegunFor site t) (u : List Exchange) :
    BegunFor site (t ++ u) := by
  obtain ⟨before, url, x, after, rfl, hsite, hbegins⟩ := h
  exact ⟨before, url, x, after ++ u, by simp, hsite, hbegins⟩

theorem begun_eq_nil {t : List Exchange} (h : ∀ x ∈ t, x.question.begins = none) : begun t = [] :=
  List.filterMap_eq_nil_iff.2 h

/-- A question that waits for no element begins no sequence. -/
theorem begins_of_not_awaits {q : Question} (h : q.awaits = false) : q.begins = none := by
  cases q with
  | page call => cases call <;> first | rfl | cases h
  | _ => rfl

/-- A site is known by its first step, and no later step is the first one of a site. -/
theorem siteFrom_steps : ∀ site ∈ sites, site.steps.head?.bind (siteFrom ·.selector) = some site ∧
    ∀ step ∈ site.steps.tail, siteFrom step.selector = none := by decide

/-- A script that waits for no element begins no sequence. -/
theorem quiet_script {α : Type} {F : Failure → Prop} {s : Script α} (h : s.Composed Question.Prompt F) :
    s.Ensures (fun t _ => begun t = []) :=
  (h.asks (fun _ hq => begins_of_not_awaits hq.2.2) (fun _ _ => rfl)).mono fun _ _ => begun_eq_nil

variable (p : Patience) (c : Credentials)

theorem act_asks (step : Step) : (step.act c).Asks (·.begins = none) := by
  unfold Step.act
  split
  · exact .query rfl
  · exact .query rfl
  · exact .query rfl
  · exact .done ()
  · exact .fail _

theorem runSteps_asks (timeout : Int) {steps : List Step} (h : ∀ step ∈ steps, siteFrom step.selector = none) :
    (runSteps c timeout steps).Asks (·.begins = none) := by
  induction steps with
  | nil => exact .done ()
  | cons step rest ih =>
    obtain ⟨hstep, hrest⟩ := List.forall_mem_cons.1 h
    exact .bind (.query hstep) fun _ => .bind (act_asks c step) fun _ => ih hrest

/-- The sequence of a site begins with its first question, and no other one begins. -/
theorem runSteps_begins (timeout : Int) {site : Site} (hsite : site ∈ sites) :
    (runSteps c timeout site.steps).Ensures (fun t _ => ∃ x after, t = x :: after ∧
      x.question.begins = some site ∧ begun after = []) := by
  obtain ⟨hfirst, hlater⟩ := siteFrom_steps site hsite
  cases hsteps : site.steps with
  | nil => rw [hsteps] at hfirst; cases hfirst
  | cons first rest =>
    rw [hsteps] at hfirst hlater
    have hrest : (first.act c >>= fun _ => runSteps c timeout rest).Asks (·.begins = none) :=
      .bind (act_asks c first) fun _ => runSteps_asks c timeout hlater
    refine .bind (P := fun t _ => ∃ reply, t = [⟨.page (.waitVisible first.selector timeout), reply⟩])
      (.query fun reply => ⟨reply, rfl⟩) ?_ ?_
    · rintro _ _ ⟨reply, rfl⟩
      exact hrest.mono fun u _ hu => ⟨_, u, rfl, hfirst, begun_eq_nil hu⟩
    · rintro _ e ⟨reply, rfl⟩
      exact ⟨_, [], rfl, hfirst, rfl⟩

/-! ## §2 Trying a site -/

/-- What the sequence of the site of the page exchanges: at most one sequence begins, and where one goes
through it is that of the address. -/
structure SiteTrace (t : List Exchange) (r : Except Failure (Option String)) : Prop where
  once : (begun t).length ≤ 1
  through : ∀ domain, r = .ok (some domain) → ∃ site, BegunFor site t ∧ domain = site.domain

theorem siteSequence_trace : (siteSequence p c).Ensures SiteTrace := by
  have hasked : ∀ reply : Except Failure String, (begun [⟨.url, reply⟩]).length ≤ 1 := fun _ => Nat.zero_le 1
  unfold siteSequence
  refine .bind (P := fun t r => t = [⟨.url, r⟩]) (.query fun reply => rfl) ?_ ?_
  · rintro _ url rfl
    split
    · exact ⟨hasked _, nofun⟩
    · exact ⟨hasked _, nofun⟩
    · rename_i site hsite
      have hgoes : (runSteps c p.navigation site.steps >>= fun _ => .done (some site.domain)).Ensures
          (fun t r => SiteTrace ([⟨.url, .ok url⟩] ++ t) r) := by
        refine .bind (runSteps_begins c p.navigation (siteFor_mem hsite)) ?_ ?_
        · rintro t _ ⟨x, after, rfl, hx, hafter⟩
          refine ⟨by simp [Question.begins, hafter], fun domain hdomain => ?_⟩
          cases hdomain
          exact ⟨site, ⟨[], url, x, after, by simp, hsite, hx⟩, rfl⟩
        · rintro t e ⟨x, after, rfl, -, hafter⟩
          exact ⟨by simp [Question.begins, hafter], nofun⟩
      refine .onRefusal hgoes (fun _ _ h => h) (fun _ _ _ h => ⟨h.once, nofun⟩) ?_
      rintro t e ⟨honce, -⟩
      exact ⟨by simpa using honce, nofun⟩
  · rintro _ e rfl
    exact ⟨hasked _, nofun⟩

/-- An attempt that a known site has settled, whose sequence begins in a transcript. -/
structure Attempt.BySite (a : Attempt) (t : List Exchange) : Prop where
  via : a.submittedVia = "site"
  site : ∃ site, BegunFor site t ∧ a.strategy = site.domain

theorem Attempt.BySite.append_left {a : Attempt} {t : List Exchange} (h : a.BySite t) (u : List Exchange) :
    a.BySite (u ++ t) :=
  ⟨h.via, h.site.imp fun _ hs => ⟨hs.1.append_left u, hs.2⟩⟩

theorem Attempt.BySite.append_right {a : Attempt} {t : List Exchange} (h : a.BySite t) (u : List Exchange) :
    a.BySite (t ++ u) :=
  ⟨h.via, h.site.imp fun _ hs => ⟨hs.1.append_right u, hs.2⟩⟩

variable {a : Attempt}

theorem trySite_trace : Flow.Ensures (trySite p c) a (fun t v a' =>
    (begun t).length ≤ 1 ∧ (v = .ok true → a'.BySite t)) := by
  unfold trySite
  refine .bind_lift (siteSequence_trace p c) ?_ (fun _ _ h => ⟨h.once, nofun⟩)
  intro t found h
  cases found with
  | none => exact .pure ⟨by simpa using h.once, nofun⟩
  | some domain =>
    refine .bind_change (.pure ⟨by simpa using h.once, fun _ => ⟨rfl, ?_⟩⟩)
    simpa using h.through domain rfl

/-- A site is tried, or it is not. -/
structure SiteTrial (tried : Bool) (a : Attempt) (t : List Exchange) (v : Except Failure Bool)
    (a' : Attempt) : Prop extends SiteRecord a v a' where
  once : (begun t).length ≤ 1
  quiet : tried = false → begun t = []
  bySite : v = .ok true → tried = true ∧ a'.BySite t

theorem siteTrial_pure : SiteTrial false a [] (.ok false) a where
  toSiteRecord := .refl nofun
  once := Nat.zero_le 1
  quiet _ := rfl
  bySite := nofun

theorem trySite_trial : Flow.Ensures (trySite p c) a (fun t v a' => SiteTrial true a t v a') := by
  refine ((trySite_record p c).and (trySite_trace p c)).mono ?_
  rintro t v a' ⟨hrecord, honce, hsettled⟩
  exact { hrecord with
    once := honce
    quiet := nofun
    bySite := fun hv => ⟨rfl, hsettled hv⟩ }

theorem earlySite_trial (siteFirst : Bool) :
    Flow.Ensures (earlySite p c siteFirst) a (fun t v a' => SiteTrial siteFirst a t v a') := by
  cases siteFirst with
  | true => exact trySite_trial p c
  | false => exact .pure siteTrial_pure

theorem lateSite_trial (intent : Intent) (siteTried : Bool) :
    Flow.Ensures (lateSite p c intent siteTried) a
      (fun t v a' => SiteTrial (!siteTried && intent == .login) a t v a') := by
  unfold lateSite
  cases !siteTried && intent == .login with
  | true => exact trySite_trial p c
  | false => exact .pure siteTrial_pure

/-! ## §3 The parts of an attempt -/

/-- What a flow ensures that waits for no element; it begins no sequence. -/
theorem quietly {α : Type} {F : Failure → Prop} {x : Flow α}
    {Q : List Exchange → Except Failure α → Attempt → Prop} (hx : x.Composed Question.Prompt F)
    (h : Flow.Ensures x a Q) : Flow.Ensures x a (fun t v a' => begun t = [] ∧ Q t v a') := by
  have hasks : (Flow.on x a).Asks (·.begins = none) :=
    hx.asks (fun _ hq => begins_of_not_awaits hq.2.2) (fun _ _ => rfl) a
  refine (h.asking hasks).mono ?_
  rintro t v a' ⟨hQ, hquiet⟩
  exact ⟨begun_eq_nil hquiet, hQ⟩

/-- Looking for a form and finding out what it is for begin no sequence and keep the strategy. -/
theorem formStanding_trace (requested : Option Intent) (siteTried : Bool) :
    Flow.Ensures (reachForm p (requested.getD .login) >>= fun _ => detect requested >>= fun found =>
        pure (Standing.atForm found.1 found.2 siteTried)) a
      (fun t v a' => begun t = [] ∧ ∀ standing, v = .ok standing → ∃ intent address,
        standing = .atForm intent address siteTried ∧ a'.Meets requested intent ∧
          a'.strategy = a.strategy) := by
  have hreach := (composed_reachForm p (requested.getD .login)).widen fun _ hq => hq.1
  have hdetect := (composed_detect requested).widen fun _ hq => hq.1
  refine quietly (.bind hreach fun _ => .bind hdetect fun _ => .pure _) ?_
  refine .bind (reachForm_record p _) ?_ (fun _ _ _ _ => nofun)
  rintro t _ b ⟨-, hkept⟩
  refine .bind (detect_record requested) ?_ (fun _ _ _ _ => nofun)
  rintro u ⟨intent, address⟩ b' ⟨hstrategy, hmeets⟩
  refine .pure ?_
  rintro _ ⟨⟩
  exact ⟨intent, address, rfl, hmeets intent address rfl, hstrategy.trans hkept⟩

/-- Where an attempt stands, and the sequences that have begun on the way there. -/
structure Approached (requested : Option Intent) (t : List Exchange) (v : Except Failure Standing)
    (a : Attempt) : Prop where
  once : (begun t).length ≤ 1
  signup : requested = some .signup → begun t = []
  settled : ∀ start, v = .ok (.settled start) → a.Meets requested .login ∧ a.BySite t
  atForm : ∀ intent address siteTried, v = .ok (.atForm intent address siteTried) →
    a.Meets requested intent ∧ a.strategy = genericStrategy ∧ (siteTried = false → begun t = [])

namespace Approached

variable {requested : Option Intent} {t u : List Exchange} {v : Except Failure Standing}

theorem failed {e : Failure} (ht : begun t = []) : Approached requested t (.error e) a :=
  ⟨by simp [ht], fun _ => ht, nofun, nofun⟩

/-- Exchanges that begin no sequence may come before. -/
theorem after (hu : begun u = []) (h : Approached requested t v a) : Approached requested (u ++ t) v a where
  once := by simpa [hu] using h.once
  signup := by simpa [hu] using h.signup
  settled start hv := ⟨(h.settled start hv).1, (h.settled start hv).2.append_left u⟩
  atForm intent address siteTried hv := by simpa [hu] using h.atForm intent address siteTried hv

end Approached

/-- What is left of the approach once it is known whether a site comes first. -/
theorem approachFrom_trace (requested : Option Intent) (start : String) {first : Bool}
    (hfirst : ∀ wanted, requested = some wanted → (first = true ↔ wanted = .login))
    (ha : a.strategy = genericStrategy) :
    Flow.Ensures (earlySite p c first >>= fun settled =>
        if settled then do
          modify (fun a => { a with intent := some .login })
          Flow.advance .onAuthPage
          Flow.advance .fillingFields
          pure (.settled start)
        else do
          reachForm p (requested.getD .login)
          let (intent, address) ← detect requested
          pure (.atForm intent address first)) a
      (fun t v a' => Approached requested t v a') := by
  have hlogin : requested = some .signup → first = false := fun hwanted =>
    Bool.eq_false_iff.2 fun h => nomatch (hfirst .signup hwanted).1 h
  refine .bind (earlySite_trial p c first) ?_ ?_
  · intro t settled b htrial
    split
    · rename_i hsettled
      obtain ⟨hfirst', hsite⟩ := htrial.bySite (by rw [hsettled])
      refine .bind_change (.bind_advance (.bind_advance (.pure ?_)))
      rw [List.append_nil]
      exact {
        once := htrial.once
        signup := fun hwanted => nomatch hfirst'.symm.trans (hlogin hwanted)
        settled := fun _ _ => ⟨⟨rfl, fun wanted hwanted => ((hfirst wanted hwanted).1 hfirst').symm⟩,
          ⟨hsite.via, hsite.site⟩⟩
        atForm := nofun }
    · rename_i hsettled
      have hsame : b = a := htrial.same fun h => hsettled (Except.ok.inj h)
      refine (formStanding_trace p requested first).mono ?_
      rintro u v d ⟨hu, hstanding⟩
      exact {
        once := by simpa [hu] using htrial.once
        signup := fun hwanted => by simpa [hu] using htrial.quiet (hlogin hwanted)
        settled := fun _ hv => by
          obtain ⟨_, _, hform, -⟩ := hstanding _ hv
          cases hform
        atForm := fun intent address siteTried hv => by
          obtain ⟨_, _, hform, hmeets, hstrategy⟩ := hstanding _ hv
          cases hform
          exact ⟨hmeets, by rw [hstrategy, hsame, ha], fun h => by simpa [hu] using htrial.quiet h⟩ }
  · intro t e b htrial
    exact ⟨htrial.once, fun hwanted => htrial.quiet (hlogin hwanted), nofun, nofun⟩

theorem approach_trace (requested : Option Intent) (ha : a.strategy = genericStrategy) :
    Flow.Ensures (approach p c requested) a (fun t v a' => Approached requested t v a') := by
  unfold approach
  refine .bind_lift (P := fun t _ => begun t = []) (.query fun _ => rfl) ?_ (fun _ _ ht => .failed ht)
  intro t start ht
  have hfirst := (composed_siteComesFirst requested).widen fun _ hq => hq.1
  refine .bind (quietly hfirst (siteComesFirst_record requested)) ?_ ?_
  · rintro u first b ⟨hu, rfl, hfirst⟩
    refine (approachFrom_trace p c requested start (fun wanted => hfirst first wanted rfl) ha).mono ?_
    exact fun w v d h => (h.after hu).after ht
  · rintro u e b ⟨hu, -⟩
    exact .failed (by simp [ht, hu])

/-- An attempt whose fields are filled in, and the sequences that have begun on the way there. -/
structure Filled (requested : Option Intent) (t : List Exchange) (v : Except Failure (Bool × String))
    (a : Attempt) : Prop where
  once : (begun t).length ≤ 1
  signup : requested = some .signup → begun t = []
  bySite : ∀ before, v = .ok (true, before) → a.Meets requested .login ∧ a.BySite t
  byForm : ∀ before, v = .ok (false, before) → a.strategy = genericStrategy ∧
    ∃ intent, a.Meets requested intent

/-- The site of a form is tried only where none was tried before, and not for a signup. -/
theorem SiteTrial.late {requested : Option Intent} {t u : List Exchange} {intent : Intent} {siteTried : Bool}
    {v : Except Failure Bool} {a' : Attempt} (h : SiteTrial (!siteTried && intent == .login) a u v a')
    (honce : (begun t).length ≤ 1) (hsignup : requested = some .signup → begun t = [])
    (hquiet : siteTried = false → begun t = []) (hmeets : a.Meets requested intent) :
    (begun (t ++ u)).length ≤ 1 ∧ (requested = some .signup → begun (t ++ u) = []) := by
  constructor
  · cases siteTried with
    | false => simpa [hquiet rfl] using h.once
    | true => simpa [h.quiet rfl] using honce
  · intro hwanted
    have hintent : intent = .signup := hmeets.2 .signup hwanted
    have hu : begun u = [] := h.quiet (by simp [hintent])
    simp [hu, hsignup hwanted]

theorem fillIn_trace {requested : Option Intent} {t : List Exchange} {standing : Standing}
    (h : Approached requested t (.ok standing) a) :
    Flow.Ensures (fillIn p c standing) a (fun u v a' => Filled requested (t ++ u) v a') := by
  cases standing with
  | settled start =>
    obtain ⟨hmeets, hsite⟩ := h.settled start rfl
    refine .pure ?_
    rw [List.append_nil]
    exact ⟨h.once, h.signup, fun _ _ => ⟨hmeets, hsite⟩, nofun⟩
  | atForm intent address siteTried =>
    obtain ⟨hmeets, hstrategy, hquiet⟩ := h.atForm intent address siteTried rfl
    unfold fillIn
    refine .bind (lateSite_trial p c intent siteTried) ?_ ?_
    · intro u settled b htrial
      obtain ⟨honce, hsignup⟩ := htrial.late h.once h.signup hquiet hmeets
      split
      · rename_i hsettled
        obtain ⟨htried, hsite⟩ := htrial.bySite (by rw [hsettled])
        have hintent : intent = .login := by simpa using (Bool.and_eq_true_iff.1 htried).2
        refine .pure ⟨by simpa using honce, by simpa using hsignup, fun _ _ => ⟨?_, ?_⟩, nofun⟩
        · exact ⟨by rw [htrial.intent_eq, hmeets.1, hintent], hintent ▸ hmeets.2⟩
        · simpa using hsite.append_left t
      · rename_i hsettled
        have hsame : b = a := htrial.same fun h => hsettled (Except.ok.inj h)
        refine .bind_lift (quiet_script (composed_fillForm (fun _ _ => ⟨rfl, rfl, rfl⟩) p c intent)) ?_ ?_
        · intro w _ hw
          refine .pure ⟨by simpa [hw] using honce, by simpa [hw] using hsignup, nofun, fun _ _ => ?_⟩
          exact ⟨hsame ▸ hstrategy, intent, hsame ▸ hmeets⟩
        · intro w e hw
          exact ⟨by simpa [hw] using honce, by simpa [hw] using hsignup, nofun, nofun⟩
    · intro u e b htrial
      obtain ⟨honce, hsignup⟩ := htrial.late h.once h.signup hquiet hmeets
      exact ⟨honce, hsignup, nofun, nofun⟩

theorem submitForm_gives (intent : Intent) :
    (submitForm p intent).Gives (fun via => via = "enter" ∨ via ∈ intent.buttons) := by
  refine .bind (findField_gives p intent.buttons) ?_
  intro found hfound
  cases found with
  | none => exact .bind_any fun _ => .bind_any fun _ => .done (.inl rfl)
  | some button => exact .bind_any fun _ => .done (.inr (hfound button rfl))

/-- What the last part of an attempt makes of its record `a`: only what sent the form may change. -/
structure Sent (bySite : Bool) (a a' : Attempt) : Prop where
  intent_eq : a'.intent = a.intent
  strategy_eq : a'.strategy = a.strategy
  viaSite : bySite = true → a'.submittedVia = a.submittedVia
  viaForm : bySite = false → a'.submittedVia = "enter" ∨ a'.submittedVia ∈ (a.intent.getD .login).buttons

theorem send_record (bySite : Bool) :
    Flow.Ensures (send p bySite) a (fun _ v a' => v = .ok () → Sent bySite a a') := by
  unfold send
  split
  · rename_i hsite
    exact .pure fun _ => ⟨rfl, rfl, fun _ => rfl, fun h => nomatch h.symm.trans hsite⟩
  · rename_i hform
    refine .bind (P := fun _ v a' => a' = a ∧ ∀ b, v = .ok b → b = a) (.get ⟨rfl, ?_⟩) ?_
      (fun _ _ _ _ => nofun)
    · rintro b ⟨⟩
      rfl
    · rintro t b _ ⟨rfl, hb⟩
      refine .bind_lift (submitForm_gives p _) ?_ (fun _ _ _ => nofun)
      intro u via hvia
      refine .change fun _ => ⟨rfl, rfl, fun h => absurd h hform, fun _ => ?_⟩
      rw [← hb b rfl]
      exact hvia via rfl

theorem finish_record (bySite : Bool) (before : String) :
    Flow.Ensures (finish p bySite before) a (fun _ v a' => v = .ok () →
      a'.stage = .done ∧ Sent bySite a a') := by
  unfold finish
  refine .bind_advance (.bind (send_record p bySite) ?_ (fun _ _ _ _ => nofun))
  intro t _ b hsent
  refine .bind_lift (.any _) ?_ (fun _ _ _ => nofun)
  intro u navigated _
  refine .bind_lift (.any _) ?_ (fun _ _ _ => nofun)
  intro w url _
  obtain ⟨hintent, hstrategy, hsite, hform⟩ := hsent rfl
  exact .bind_change (.advance fun _ => ⟨rfl, hintent, hstrategy, hsite, hform⟩)

/-! ## §4 The whole attempt -/

theorem site_not_sent : ∀ intent : Intent, "site" ∉ "enter" :: intent.buttons := by
  intro intent
  cases intent <;> decide

/-- The record `a` of an attempt that is done, whose exchanges were `t`, fits together. -/
structure Attempt.Coherent (a : Attempt) (requested : Option Intent) (intent : Intent)
    (t : List Exchange) : Prop where
  stage_eq : a.stage = .done
  intent_eq : a.intent = some intent
  requested : ∀ wanted, requested = some wanted → intent = wanted
  site_iff : a.strategy ≠ genericStrategy ↔ a.submittedVia = "site"
  bySite : a.strategy ≠ genericStrategy → intent = .login ∧ ∃ site, BegunFor site t ∧ a.strategy = site.domain
  byForm : a.strategy = genericStrategy → a.submittedVia = "enter" ∨ a.submittedVia ∈ intent.buttons

theorem Attempt.BySite.strategy_ne {t : List Exchange} (h : a.BySite t) : a.strategy ≠ genericStrategy := by
  obtain ⟨site, ⟨before, url, x, after, -, hsite, -⟩, hstrategy⟩ := h.site
  rw [hstrategy]
  exact sites_domain_ne site (siteFor_mem hsite)

theorem Sent.coherent {requested : Option Intent} {t : List Exchange} {bySite : Bool} {before : String}
    {a' : Attempt} (h : Filled requested t (.ok (bySite, before)) a) (hsent : Sent bySite a a')
    (hstage : a'.stage = .done) : ∃ intent, a'.Coherent requested intent t := by
  cases bySite with
  | true =>
    obtain ⟨⟨hintent, hwanted⟩, hsite⟩ := h.bySite before rfl
    have hvia : a'.submittedVia = "site" := (hsent.viaSite rfl).trans hsite.via
    have hne : a'.strategy ≠ genericStrategy := hsent.strategy_eq ▸ hsite.strategy_ne
    exact ⟨.login, {
      stage_eq := hstage
      intent_eq := hsent.intent_eq.trans hintent
      requested := hwanted
      site_iff := by simp [hvia, hne]
      bySite := fun _ => ⟨rfl, hsent.strategy_eq ▸ hsite.site⟩
      byForm := fun h => absurd h hne }⟩
  | false =>
    obtain ⟨hstrategy, intent, hintent, hwanted⟩ := h.byForm before rfl
    have hstrategy' : a'.strategy = genericStrategy := hsent.strategy_eq.trans hstrategy
    have hvia := hsent.viaForm rfl
    rw [hintent] at hvia
    have hnot : a'.submittedVia ≠ "site" := fun h =>
      site_not_sent intent (List.mem_cons.2 (h ▸ hvia))
    exact ⟨intent, {
      stage_eq := hstage
      intent_eq := hsent.intent_eq.trans hintent
      requested := hwanted
      site_iff := by simp [hstrategy', hnot]
      bySite := fun h => absurd hstrategy' h
      byForm := fun _ => hvia }⟩

theorem Attempt.Coherent.append_right {requested : Option Intent} {intent : Intent} {t : List Exchange}
    (h : a.Coherent requested intent t) (u : List Exchange) : a.Coherent requested intent (t ++ u) :=
  { h with
    bySite := fun hne => ⟨(h.bySite hne).1, (h.bySite hne).2.imp fun _ hs => ⟨hs.1.append_right u, hs.2⟩⟩ }

/-- The sequences that begin in an attempt, and its record if it is done. -/
structure AttemptTrace (requested : Option Intent) (t : List Exchange) (v : Except Failure Unit)
    (a : Attempt) : Prop where
  once : (begun t).length ≤ 1
  signup : requested = some .signup → begun t = []
  coherent : v = .ok () → ∃ intent, a.Coherent requested intent t

theorem signIn_trace (requested : Option Intent) (ha : a.strategy = genericStrategy) :
    Flow.Ensures (signIn p c requested) a (fun t v a' => AttemptTrace requested t v a') := by
  unfold signIn
  refine .bind (approach_trace p c requested ha) ?_ (fun _ _ _ h => ⟨h.once, h.signup, nofun⟩)
  intro t standing b happroached
  refine .bind (fillIn_trace p c happroached) ?_ (fun _ _ _ h => ⟨h.once, h.signup, nofun⟩)
  rintro u ⟨bySite, before⟩ b' hfilled
  have hfinish := (composed_finish p bySite before).widen fun _ hq => hq.1
  refine Flow.Ensures.mono (quietly hfinish (finish_record p bySite before)) ?_
  rintro w v d ⟨hw, hdone⟩
  rw [← List.append_assoc]
  refine ⟨by simpa [hw] using hfilled.once, by simpa [hw] using hfilled.signup, fun hv => ?_⟩
  obtain ⟨hstage, hsent⟩ := hdone hv
  exact (hsent.coherent hfilled hstage).imp fun _ h => h.append_right w

/-- In every attempt at most one sequence of a known site begins, and none when a signup was asked for. The
record of an attempt that succeeds fits together: it is done, and its intent is the one asked for, if one was.
Either its strategy is the site of the address that the page had when the sequence began, the intent is a
login and the site has sent the form; or it has the strategy for every site, and the form was sent by the
enter key or by one of the buttons for its intent. -/
theorem authenticate_coherent (m : Machine) (page : String) (p : Patience) (c : Credentials)
    (requested : Option Intent) :
    ∃ outcome a m', (authenticate p c requested).run m page = (.ok (outcome, a), m') ∧
      (begun ((authenticate p c requested).transcript m page)).length ≤ 1 ∧
      (requested = some .signup → begun ((authenticate p c requested).transcript m page) = []) ∧
      (outcome = .ok () → ∃ intent,
        a.Coherent requested intent ((authenticate p c requested).transcript m page)) := by
  have hends : (authenticate p c requested).Ensures (fun t r => ∃ outcome a, r = .ok (outcome, a) ∧
      AttemptTrace requested t outcome a) := by
    unfold authenticate
    refine .bind (signIn_trace p c requested rfl) ?_ ?_
    · rintro t ⟨v, b⟩ ⟨v', b', hr, htrace⟩
      cases hr
      cases v with
      | ok _ => exact ⟨.ok (), b, rfl, by simpa using htrace⟩
      | error e =>
        exact ⟨.error e, b.advance .failed, rfl, by simpa using htrace.once, by simpa using htrace.signup,
          nofun⟩
    · rintro t e ⟨v, b, hr, -⟩
      cases hr
  obtain ⟨outcome, a, hrun, htrace⟩ := hends.run m page
  exact ⟨outcome, a, _, Prod.ext hrun rfl, htrace.once, htrace.signup, htrace.coherent⟩

/-- A browser that shows the sign-in page of a known site. -/
def githubMachine : Machine where
  disk := { entries := [], current := [], environment := [] }
  config := {}
  world := {
    pages := [{
      name := "main"
      url := "https://github.com/login"
      elements := [("#login_field", {}), ("#password", {}), ("input[name=\"commit\"]", {})] }]
    context := ["main"] }
  tab := .on "main" true

set_option maxRecDepth 100000 in
theorem github_succeeds :
    ((authenticate {} ⟨"ada", "secret", none⟩ (some .login)).run githubMachine "main").1.toOption.any
      (fun o => o.1.isOk && o.2.strategy == "github.com") = true := by
  decide +kernel

theorem authenticate_coherent_github :
    ∃ a site, ((authenticate {} ⟨"ada", "secret", none⟩ (some .login)).run githubMachine "main").1
        = .ok (.ok (), a) ∧ a.intent = some .login ∧ a.submittedVia = "site" ∧
      site.domain = "github.com" ∧
      BegunFor site
        ((authenticate {} ⟨"ada", "secret", none⟩ (some .login)).transcript githubMachine "main") := by
  obtain ⟨outcome, a, m', hrun, -, -, hdone⟩ :=
    authenticate_coherent githubMachine "main" {} ⟨"ada", "secret", none⟩ (some .login)
  have hgithub := github_succeeds
  rw [hrun] at hgithub
  obtain ⟨hok, hstrategy⟩ : outcome.isOk = true ∧ a.strategy = "github.com" := by
    simpa [Except.toOption] using hgithub
  cases outcome with
  | error e => cases hok
  | ok _ =>
    obtain ⟨intent, h⟩ := hdone rfl
    have hne : a.strategy ≠ genericStrategy := by
      rw [hstrategy]
      decide
    obtain ⟨hintent, site, hbegun, hsite⟩ := h.bySite hne
    exact ⟨a, site, by rw [hrun], hintent ▸ h.intent_eq, h.site_iff.1 hne, hsite.symm.trans hstrategy, hbegun⟩

end SignIn
end BrowserScript
