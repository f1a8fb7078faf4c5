/-
BrowserScript.Proofs.SignIn.Filling — a form is filled in as a whole, or it is left alone.

This is about attempts that begin no sequence of a known site, since such a sequence types in step by step. What an
attempt enters into the page it enters while it fills in a form that it has come to, or by sending that form.

* `Unbegun`, `HandsOff`: on the way to a form nothing is entered, where no sequence begins.
* `Halted`: how far an attempt has come by then.
* `Course`: the ways in which such an attempt goes. What it shows is read off its way (`Course.lacks`,
  `Course.fills`).

Main statement: `authenticate_fills`.
-/
import BrowserScript.Proofs.SignIn.FormFields
import BrowserScript.Proofs.SignIn.FormRoute
import BrowserScript.Proofs.SignIn.History
import BrowserScript.Proofs.SignIn.Outcome

namespace BrowserScript.SignIn

open Browser
open Failure (Foreign)

/-! ## §1 Attempts without a site -/

theorem begun_append_eq_nil {t u : List Exchange} : begun (t ++ u) = [] ↔ begun t = [] ∧ begun u = [] := by
  rw [begun_append, List.append_eq_nil_iff]

theorem BegunFor.begun_ne_nil {site : Site} {t : List Exchange} (h : BegunFor site t) : begun t ≠ [] := by
  obtain ⟨before, url, x, after, rfl, -, hbegins⟩ := h
  simp [hbegins]

/-- What comes of trying a site whose sequence does not begin: it enters nothing and settles nothing, and it is not
signing in that fails. -/
structure Unbegun (t : List Exchange) (v : Except Failure Bool) : Prop where
  idle : ∀ x ∈ t, x.question.enters = false
  unsettled : v ≠ .ok true
  foreign : (∀ x ∈ t, x.Within Foreign) → ∀ e, v = .error e → e.Foreign

theorem unbegun_nil : Unbegun [] (.ok false) := ⟨List.forall_mem_nil _, nofun, fun _ => nofun⟩

section Sites

variable (p : Patience) (c : Credentials) {a : Attempt}

/-- A sequence that does not begin asks for the address only. -/
theorem siteSequence_unbegun : (siteSequence p c).Ensures (fun t r => begun t = [] →
    ∃ reply, t = [⟨.url, reply⟩] ∧ (∀ domain, r ≠ .ok (some domain)) ∧
      ∀ e, r = .error e → reply = .error e ∨ e.Foreign) := by
  unfold siteSequence
  refine .bind (P := fun t r => t = [⟨.url, r⟩]) (.query fun reply => rfl) ?_ ?_
  · rintro _ url rfl
    split
    · rename_i fault _
      intro _
      refine ⟨.ok url, rfl, nofun, ?_⟩
      intro e he
      cases he
      exact .inr nofun
    · exact fun _ => ⟨.ok url, rfl, nofun, nofun⟩
    · rename_i site hsite
      have hbegins : ∀ {t : List Exchange}, (∃ x after, t = x :: after ∧ x.question.begins = some site ∧
          begun after = []) → begun ([⟨.url, .ok url⟩] ++ t) ≠ [] := by
        rintro _ ⟨x, after, rfl, hx, -⟩
        simp [hx]
      have hgoes : (runSteps c p.navigation site.steps >>= fun _ => .done (some site.domain)).Ensures
          (fun t _ => begun ([⟨.url, .ok url⟩] ++ t) ≠ []) := by
        refine .bind (runSteps_begins c p.navigation (siteFor_mem hsite)) ?_ fun t e ht => hbegins ht
        intro t _ ht
        show begun ([_] ++ (t ++ [])) ≠ []
        rw [List.append_nil]
        exact hbegins ht
      refine .onRefusal hgoes (fun t _ ht hnone => absurd hnone ht) (fun t _ _ ht hnone => absurd hnone ht) ?_
      intro t e ht hnone
      rw [List.append_nil] at hnone
      exact absurd hnone ht
  · rintro _ e rfl
    refine fun _ => ⟨.error e, rfl, nofun, ?_⟩
    intro e' he
    cases he
    exact .inl rfl

theorem trySite_unbegun : Flow.Ensures (trySite p c) a (fun t v _ => begun t = [] → Unbegun t v) := by
  unfold trySite
  refine .bind_lift (siteSequence_unbegun p c) ?_ ?_
  · intro t found h
    cases found with
    | none =>
      refine .pure fun hnone => ?_
      rw [List.append_nil] at hnone ⊢
      obtain ⟨reply, rfl, -, -⟩ := h hnone
      exact ⟨List.forall_mem_singleton.2 rfl, nofun, fun _ => nofun⟩
    | some domain =>
      refine .bind_change (.pure fun hnone => ?_)
      rw [List.append_nil] at hnone
      obtain ⟨reply, -, hunsettled, -⟩ := h hnone
      exact absurd rfl (hunsettled domain)
  · intro t e h hnone
    obtain ⟨reply, rfl, -, hforeign⟩ := h hnone
    refine ⟨List.forall_mem_singleton.2 rfl, nofun, ?_⟩
    intro hwithin e' he
    cases he
    rcases hforeign e rfl with rfl | hforeign
    · exact (hwithin _ (List.mem_singleton_self _)).reply e rfl
    · exact hforeign

theorem earlySite_unbegun (siteFirst : Bool) :
    Flow.Ensures (earlySite p c siteFirst) a (fun t v _ => begun t = [] → Unbegun t v) := by
  unfold earlySite
  split
  · exact trySite_unbegun p c
  · exact .pure fun _ => unbegun_nil

theorem lateSite_unbegun (intent : Intent) (siteTried : Bool) :
    Flow.Ensures (lateSite p c intent siteTried) a (fun t v _ => begun t = [] → Unbegun t v) := by
  unfold lateSite
  split
  · exact trySite_unbegun p c
  · exact .pure fun _ => unbegun_nil

end Sites

/-- Nothing is entered unless a sequence of a site begins. -/
def HandsOff (t : List Exchange) : Prop := begun t = [] → ∀ x ∈ t, x.question.enters = false

theorem HandsOff.append {t u : List Exchange} (ht : HandsOff t) (hu : HandsOff u) : HandsOff (t ++ u) := by
  intro hnone
  obtain ⟨hbefore, hafter⟩ := begun_append_eq_nil.1 hnone
  exact List.forall_mem_append.2 ⟨ht hbefore, hu hafter⟩

section Approach

variable (p : Patience) (c : Credentials) (requested : Option Intent) {a : Attempt}

theorem handsOff_composed {α : Type} {F : Failure → Prop} {x : Flow α} (h : x.Composed Question.Idle F) :
    Flow.Ensures x a (fun t _ _ => HandsOff t) := by
  have hends := raises_flow (F := fun _ => True) (fun _ => trivial) (fun _ => trivial) h.loose a
  refine (hends.asking (h.asks (fun _ hq => hq.2) (fun _ _ => rfl) a)).mono ?_
  intro t v a' h _
  exact h.2

theorem approach_handsOff : Flow.Ensures (approach p c requested) a (fun t _ _ => HandsOff t) := by
  unfold approach
  refine .bind_lift (P := fun t _ => HandsOff t) (.query fun _ _ => List.forall_mem_singleton.2 rfl) ?_
    (fun _ _ ht => ht)
  intro t start ht
  refine .bind (handsOff_composed (composed_siteComesFirst requested)) ?_ (fun _ _ _ hu => ht.append hu)
  intro u first b hu
  refine .bind (earlySite_unbegun p c first) ?_
    (fun _ _ _ hw => ht.append (hu.append fun hnone => (hw hnone).idle))
  intro w settled b' hw
  have hsite : HandsOff w := fun hnone => (hw hnone).idle
  split
  · refine .bind_change (.bind_advance (.bind_advance (.pure ?_)))
    rw [List.append_nil]
    exact ht.append (hu.append hsite)
  · have hform := handsOff_composed (a := b') (.bind (composed_reachForm p (requested.getD .login)) fun _ =>
      .bind (composed_detect requested) fun found => .pure (Standing.atForm found.1 found.2 first))
    exact hform.mono fun v _ _ hv => ht.append (hu.append (hsite.append hv))

theorem reachForm_early (intent : Intent) (ha : a.stage.Before .fillingFields) :
    Flow.Ensures (reachForm p intent) a (fun _ _ a' => a'.stage.Before .fillingFields) := by
  have hadvance : ∀ (b : Attempt) (s : Stage), s.Before .fillingFields →
      (b.advance s).stage.Before .fillingFields := fun _ _ hs => hs
  unfold reachForm
  refine .bind_lift (.any _) ?_ (fun _ _ _ => ha)
  intro t here _
  split
  · exact .advance (hadvance _ _ (by decide))
  · refine .bind_advance (.bind_lift (.any _) ?_ (fun _ _ _ => hadvance _ _ (by decide)))
    intro t viaLink _
    split
    · exact .advance (hadvance _ _ (by decide))
    · refine .bind_lift (.any _) ?_ (fun _ _ _ => hadvance _ _ (by decide))
      intro t viaPath _
      split
      · exact .advance (hadvance _ _ (by decide))
      · exact .fail (hadvance _ _ (by decide))

/-- How far an attempt has come before its form is filled in. Where the fields were to be filled in, only the
address can have been refused. -/
structure Halted {α : Type} (t : List Exchange) (v : Except Failure α) (a : Attempt) : Prop where
  early : a.stage.Before .submitting
  refused : ∀ e, v = .error e → a.stage = .fillingFields → ⟨.url, .error e⟩ ∈ t

theorem fillingFields_before : Stage.Before .fillingFields .submitting := by decide

theorem Halted.of_before {α : Type} {t : List Exchange} {v : Except Failure α} (h : a.stage.Before .fillingFields) :
    Halted t v a where
  early := Nat.lt_trans h fillingFields_before
  refused e _ hstage := by
    rw [hstage] at h
    exact absurd h (by decide)

theorem detect_halted : Flow.Ensures (detect requested) a (fun t v a' => Halted t v a') := by
  have hdetecting : Stage.Before .detectingFormType .fillingFields := by decide
  have hintent : ∀ b : Attempt, Flow.Ensures (formIntent requested) b (fun _ _ a' => a' = b) := by
    intro b
    cases requested with
    | some intent => exact .pure rfl
    | none => exact .lift (.of_forall _ fun _ _ => rfl)
  unfold detect
  refine .bind_advance (.bind (hintent _) ?_ ?_)
  · rintro t intent b rfl
    refine .bind_change (.bind_advance (.bind_lift (P := fun u r => u = [⟨.url, r⟩]) (.query fun _ => rfl) ?_ ?_))
    · exact fun u url _ => .pure ⟨fillingFields_before, nofun⟩
    · rintro _ e rfl
      refine ⟨fillingFields_before, ?_⟩
      intro e' he _
      cases he
      simp
  · rintro t e b rfl
    exact .of_before hdetecting

theorem approach_halted (ha : a.stage = .notOnAuthPage) :
    Flow.Ensures (approach p c requested) a (fun t v a' => Halted t v a') := by
  have hearly : a.stage.Before .fillingFields := by
    rw [ha]
    decide
  unfold approach
  refine .bind_lift (.any _) ?_ (fun _ _ _ => .of_before hearly)
  intro t start _
  refine .bind (siteComesFirst_record requested) ?_ (fun _ _ _ hb => .of_before (hb.1 ▸ hearly))
  rintro u first b ⟨rfl, -⟩
  refine .bind (earlySite_record p c first) ?_ (fun _ _ _ hb => .of_before (hb.stage_eq ▸ hearly))
  intro w settled b' hsite
  split
  · exact .bind_change (.bind_advance (.bind_advance (.pure ⟨fillingFields_before, nofun⟩)))
  · refine .bind (reachForm_early p _ (hsite.stage_eq ▸ hearly)) ?_ (fun _ _ _ hd => .of_before hd)
    intro x _ d _
    refine .bind (detect_halted requested) ?_ ?_
    · intro y found d' hd'
      exact .pure ⟨hd'.early, nofun⟩
    · intro y e d' hd'
      refine ⟨hd'.early, ?_⟩
      intro e' he hstage
      cases he
      have hasked := hd'.refused e rfl hstage
      simp [hasked]

end Approach

/-! ## §2 The ways of an attempt -/

namespace FormRoute

variable {p : Patience} {c : Credentials} {requested : Option Intent} {m : Machine} {page : String}

/-- A site that is tried in vain leaves the attempt as it is. -/
theorem going_eq (r : FormRoute p c requested m page) : r.going = r.arrived :=
  ((lateSite_record p c r.intent r.siteTried).of_run r.unsettled).same nofun

theorem going_filling (r : FormRoute p c requested m page) : r.going.Filling := by
  rw [r.going_eq]
  exact ((approach_filling p c requested (Attempt.underWay_fresh requested) rfl).of_run r.approached).2 rfl

theorem going_intent (r : FormRoute p c requested m page) : r.going.intent = some r.intent := by
  rw [r.going_eq]
  exact (approach_run r.approached).2

/-- Nothing is entered before the fields are looked for, if no sequence begins. -/
theorem idle (r : FormRoute p c requested m page) (h : begun (r.toForm ++ r.atSite) = []) :
    ∀ x ∈ r.toForm ++ r.atSite, x.question.enters = false := by
  have hform : HandsOff r.toForm := (approach_handsOff p c requested).of_run r.approached
  have hsite : HandsOff r.atSite := fun hnone =>
    ((lateSite_unbegun p c r.intent r.siteTried).of_run r.unsettled hnone).idle
  exact hform.append hsite h

end FormRoute

section Ways

variable {p : Patience} {c : Credentials} {requested : Option Intent} {m m' : Machine} {page : String}
  {a a' : Attempt}

/-- Filling in at a form where no sequence begins: the site was refused, or the form is filled in. -/
theorem fillIn_cases {intent : Intent} {before : String} {siteTried : Bool} {w : Except Failure (Bool × String)}
    (hrun : (Flow.on (fillIn p c (.atForm intent before siteTried)) a).run m page = (.ok (w, a'), m'))
    (hbegun : begun ((Flow.on (fillIn p c (.atForm intent before siteTried)) a).transcript m page) = []) :
    (∃ e, w = .error e ∧ (Flow.on (lateSite p c intent siteTried) a).run m page = (.ok (.error e, a'), m') ∧
      (Flow.on (fillIn p c (.atForm intent before siteTried)) a).transcript m page
        = (Flow.on (lateSite p c intent siteTried) a).transcript m page) ∨
    ∃ r atFields, w = r.map (fun _ => (false, before)) ∧
      (Flow.on (lateSite p c intent siteTried) a).run m page = (.ok (.ok false, a'), atFields) ∧
      (fillForm p c intent).run atFields page = (r, m') ∧
      (Flow.on (fillIn p c (.atForm intent before siteTried)) a).transcript m page
        = (Flow.on (lateSite p c intent siteTried) a).transcript m page ++
          (fillForm p c intent).transcript atFields page := by
  have hfillIn : fillIn p c (.atForm intent before siteTried)
      = lateSite p c intent siteTried >>= fun bySite =>
        if bySite then pure (true, before)
        else Flow.lift (fillForm p c intent) >>= fun _ => pure (false, before) := rfl
  rw [hfillIn] at hrun hbegun ⊢
  rcases Flow.run_bind_cases hrun with ⟨e, rfl, hsite⟩ | ⟨bySite, b, atFields, hsite, hrest⟩
  · exact .inl ⟨e, rfl, hsite, Flow.transcript_bind_of_error hsite⟩
  · rw [Flow.transcript_bind hsite] at hbegun ⊢
    have hunbegun := (lateSite_unbegun p c intent siteTried).of_run hsite (begun_append_eq_nil.1 hbegun).1
    cases bySite with
    | true => exact absurd rfl hunbegun.unsettled
    | false =>
      rw [if_neg (by decide)] at hrest ⊢
      have hlift : Flow.on (Flow.lift (fillForm p c intent) >>= fun _ => pure (false, before)) b
          = (fillForm p c intent).attempt >>= fun r => .done (r.map fun _ => (false, before), b) := by
        rw [Flow.on_bind, Flow.on_lift, Script.bind_assoc]
        congr 1
        funext r
        cases r <;> rfl
      rw [hlift, Script.run_bind, Script.run_attempt] at hrest
      cases hrest
      refine .inr ⟨_, atFields, rfl, hsite, rfl, ?_⟩
      rw [hlift, Script.transcript_bind, Script.transcript_attempt, Script.run_attempt]
      exact congrArg _ (List.append_nil _)

/-- The ways in which an attempt goes that begins no sequence: it does not come to look for the fields, it fails while
it fills in the form, or it goes on with a form that is filled in. -/
inductive Course (p : Patience) (c : Credentials) (requested : Option Intent) (m : Machine) (page : String) :
    List Exchange → Except Failure Unit → Attempt → Prop
  | unreached {t : List Exchange} {e : Failure} {a : Attempt} (hopen : a.UnderWay)
      (hearly : a.stage.Before .submitting)
      (hforeign : (∀ x ∈ t, x.Within Foreign) → a.stage = .fillingFields → e.Foreign) :
      Course p c requested m page t (.error e) a
  | unfilled (r : FormRoute p c requested m page) {e : Failure} {m' : Machine}
      (hbegun : begun (r.toForm ++ r.atSite) = [])
      (hfill : (fillForm p c r.intent).run r.atFields page = (.error e, m')) :
      Course p c requested m page (r.toForm ++ r.atSite ++ r.filling) (.error e) r.going
  | filled (r : FormRoute p c requested m page) {v : Except Failure Unit} {a : Attempt} {m₁ m' : Machine}
      (hbegun : begun (r.toForm ++ r.atSite) = [])
      (hfill : (fillForm p c r.intent).run r.atFields page = (.ok (), m₁))
      (hfinish : (Flow.on (finish p false r.before) r.going).run m₁ page = (.ok (v, a), m')) :
      Course p c requested m page
        (r.toForm ++ r.atSite ++ r.filling ++ (Flow.on (finish p false r.before) r.going).transcript m₁ page) v a

/-- From a form on, where the exchanges up to there began no sequence. -/
theorem course_atForm {intent : Intent} {before : String} {siteTried : Bool} {arrived : Attempt} {atForm : Machine}
    {v : Except Failure Unit}
    (happroach : (Flow.on (approach p c requested) { intent := requested }).run m page
      = (.ok (.ok (.atForm intent before siteTried), arrived), atForm))
    (hrun : (Flow.on (fillIn p c (.atForm intent before siteTried) >>= fun q => finish p q.1 q.2) arrived).run
      atForm page = (.ok (v, a), m'))
    (htoForm : begun ((Flow.on (approach p c requested) { intent := requested }).transcript m page) = [])
    (hbegun : begun ((Flow.on (fillIn p c (.atForm intent before siteTried) >>= fun q => finish p q.1 q.2)
      arrived).transcript atForm page) = []) :
    Course p c requested m page ((Flow.on (approach p c requested) { intent := requested }).transcript m page ++
      (Flow.on (fillIn p c (.atForm intent before siteTried) >>= fun q => finish p q.1 q.2) arrived).transcript
        atForm page) v a := by
  rcases Flow.run_bind_cases hrun with ⟨e, rfl, hfillIn⟩ | ⟨q, filled, m₂, hfillIn, hfinish⟩
  · rw [Flow.transcript_bind_of_error hfillIn] at hbegun ⊢
    rcases fillIn_cases hfillIn hbegun with ⟨_, ⟨⟩, hsite, hasked⟩ | ⟨r, atFields, hr, hsite, hfill, hasked⟩
    · -- the site at the form was tried, and the address was refused
      rw [hasked] at hbegun ⊢
      have hfilling := ((approach_filling p c requested (Attempt.underWay_fresh requested) rfl).of_run
        happroach).2 rfl
      have hsame : a = arrived := ((lateSite_record p c intent siteTried).of_run hsite).same nofun
      have hunbegun := (lateSite_unbegun p c intent siteTried).of_run hsite hbegun
      refine .unreached (hsame ▸ hfilling.toUnderWay) ?_ ?_
      · rw [hsame, hfilling.stage_eq]
        exact fillingFields_before
      · intro hwithin _
        exact hunbegun.foreign (fun x hx => hwithin x (List.mem_append_right _ hx)) e rfl
    · cases r with
      | ok _ => cases hr
      | error e' =>
        cases hr
        rw [hasked] at hbegun
        rw [hasked, ← List.append_assoc]
        have hnone := begun_append_eq_nil.2 ⟨htoForm, (begun_append_eq_nil.1 hbegun).1⟩
        exact .unfilled ⟨intent, before, siteTried, arrived, atForm, a, atFields, happroach, hsite⟩ hnone hfill
  · rw [Flow.transcript_bind hfillIn] at hbegun ⊢
    have hfilling := (begun_append_eq_nil.1 hbegun).1
    rcases fillIn_cases hfillIn hfilling with ⟨_, ⟨⟩, _⟩ | ⟨r, atFields, hr, hsite, hfill, hasked⟩
    cases r with
    | error e => cases hr
    | ok _ =>
      cases hr
      rw [hasked] at hfilling
      rw [hasked, ← List.append_assoc, ← List.append_assoc]
      have hnone := begun_append_eq_nil.2 ⟨htoForm, (begun_append_eq_nil.1 hfilling).1⟩
      exact .filled ⟨intent, before, siteTried, arrived, atForm, filled, atFields, happroach, hsite⟩ hnone
        hfill hfinish

/-- Every attempt that begins no sequence goes one of these ways. -/
theorem signIn_course {v : Except Failure Unit}
    (hrun : (Flow.on (signIn p c requested) { intent := requested }).run m page = (.ok (v, a), m'))
    (hbegun : begun ((Flow.on (signIn p c requested) { intent := requested }).transcript m page) = []) :
    Course p c requested m page ((Flow.on (signIn p c requested) { intent := requested }).transcript m page)
      v a := by
  rw [signIn_eq] at hrun hbegun ⊢
  rcases Flow.run_bind_cases hrun with ⟨e, rfl, happroach⟩ | ⟨standing, arrived, atForm, happroach, hrest⟩
  · have hopen := ((approach_filling p c requested (Attempt.underWay_fresh requested) rfl).of_run happroach).1
    have hhalted := (approach_halted p c requested rfl).of_run happroach
    rw [Flow.transcript_bind_of_error happroach]
    refine .unreached hopen hhalted.early ?_
    intro hwithin hstage
    exact (hwithin _ (hhalted.refused e rfl hstage)).reply e rfl
  · rw [Flow.transcript_bind happroach] at hbegun ⊢
    obtain ⟨htoForm, hfromForm⟩ := begun_append_eq_nil.1 hbegun
    cases standing with
    | settled start =>
      have happroached := (approach_trace p c requested rfl).of_run happroach
      obtain ⟨site, hsite, -⟩ := (happroached.settled start rfl).2.site
      exact absurd htoForm hsite.begun_ne_nil
    | atForm intent before siteTried => exact course_atForm happroach hrest htoForm hfromForm

end Ways

/-! ## §3 The whole attempt -/

/-- Sending changes only what sent the form. -/
theorem send_kept (p : Patience) (bySite : Bool) {a : Attempt} :
    Flow.Ensures (send p bySite) a (fun _ _ a' => a'.intent = a.intent ∧ a'.stage = a.stage) := by
  unfold send
  split
  · exact .pure ⟨rfl, rfl⟩
  · refine .bind (P := fun _ _ a' => a' = a) (.get rfl) ?_ (fun _ _ _ ha => ha ▸ ⟨rfl, rfl⟩)
    rintro t b _ rfl
    refine .bind_lift (.any _) ?_ (fun _ _ _ => ⟨rfl, rfl⟩)
    intro u via _
    exact .change ⟨rfl, rfl⟩

/-- Once a form is filled in, nothing more is typed in, and the attempt keeps its intent and goes on to other
stages. -/
theorem finish_kept (p : Patience) (bySite : Bool) (before : String) {a : Attempt} :
    Flow.Ensures (finish p bySite before) a (fun t _ a' =>
      (a'.intent = a.intent ∧ a'.stage ≠ .fillingFields) ∧ ∀ x ∈ t, x.question.fills = false) := by
  have hkept : Flow.Ensures (finish p bySite before) a (fun _ _ a' =>
      a'.intent = a.intent ∧ a'.stage ≠ .fillingFields) := by
    have hsubmitting : (a.advance .submitting).stage ≠ .fillingFields := nofun
    unfold finish
    refine .bind_advance (.bind (send_kept p bySite) ?_ (fun _ _ _ hb => ⟨hb.1, hb.2 ▸ hsubmitting⟩))
    intro t _ b hsent
    obtain ⟨hintent, hstage⟩ := hsent
    refine .bind_lift (.any _) ?_ (fun _ _ _ => ⟨hintent, hstage ▸ hsubmitting⟩)
    intro u navigated _
    refine .bind_lift (.any _) ?_ (fun _ _ _ => ⟨hintent, hstage ▸ hsubmitting⟩)
    intro w url _
    exact .bind_change (.advance ⟨hintent, nofun⟩)
  exact hkept.asking ((composed_finish p bySite before).asks (fun _ hq => hq.2) (fun _ _ => rfl) a)

variable {p : Patience} {c : Credentials} {requested : Option Intent} {m m' : Machine} {page : String} {a : Attempt}

/-- A form lacks a field that it must have: none of the selectors for it is displayed. -/
def FormRoute.Lacks (r : FormRoute p c requested m page) (fault : SignInFault) : Prop :=
  ∃ field ∈ requiredFields, fault = .noField field.1 ∧
    field.2.find? ((r.atFields.world.page page).displays p.probe) = none

theorem Course.lacks {t : List Exchange} {fault : SignInFault}
    (h : Course p c requested m page t (.error (.signIn fault)) a) (hstore : m.world.FailsOnly Foreign)
    (hwithin : ∀ x ∈ t, x.Within Foreign) (hstage : a.stage = .fillingFields) :
    ∃ r : FormRoute p c requested m page, r.Lacks fault ∧ ∀ x ∈ t, x.question.enters = false := by
  cases h with
  | unreached _ _ hforeign => exact absurd rfl (hforeign hwithin hstage fault)
  | unfilled r hbegun hfill =>
    have hstore₁ := Script.run_failsOnly hstore r.approached
    have hstore₂ := Script.run_failsOnly hstore₁ r.unsettled
    obtain ⟨hlacks, hidle⟩ := fillForm_error hstore₂ hfill
    exact ⟨r, hlacks, List.forall_mem_append.2 ⟨r.idle hbegun, hidle⟩⟩
  | filled r _ _ hfinish =>
    exact absurd hstage ((finish_kept p false r.before).of_run hfinish).1.2

theorem Course.fills {t : List Exchange} {v : Except Failure Unit} (h : Course p c requested m page t v a)
    (hsubmitting : .submitting ∈ a.history) :
    ∃ (r : FormRoute p c requested m page) (f : Fields), a.intent = some r.intent ∧
      f.FirstOf ((r.atFields.world.page page).displays p.probe) c r.intent ∧ typed t = f.entries c := by
  have hnot : ∀ {b : Attempt}, b.UnderWay → b.stage.Before .submitting → .submitting ∉ b.history := by
    intro b hopen hearly hmem
    rcases hopen.before_or_eq hmem with hlt | heq
    · exact Nat.lt_asymm hlt hearly
    · exact Nat.lt_irrefl _ (heq ▸ hearly)
  cases h with
  | unreached hopen hearly _ => exact absurd hsubmitting (hnot hopen hearly)
  | unfilled r _ _ =>
    have hfilling := r.going_filling
    exact absurd hsubmitting (hnot hfilling.toUnderWay (hfilling.stage_eq ▸ fillingFields_before))
  | filled r hbegun hfill hfinish =>
    obtain ⟨⟨hintent, -⟩, hfinished⟩ := (finish_kept p false r.before).of_run hfinish
    obtain ⟨f, hfirst, htyped⟩ := fillForm_ok hfill
    refine ⟨r, f, hintent.trans r.going_intent, hfirst, ?_⟩
    have hbefore := typed_eq_nil fun x hx => Question.fills_of_not_enters (r.idle hbegun x hx)
    rw [typed_append, typed_append, hbefore, typed_eq_nil hfinished, List.append_nil, List.nil_append]
    exact htyped

/-- The last stage of an attempt before its end. -/
theorem last_before_end {b : Attempt} (h : b.UnderWay) :
    ((b.advance .failed).history.filter (!·.isEnd)).getLast? = some b.stage := by
  have hopen : b.history.filter (!·.isEnd) = b.history :=
    List.filter_eq_self.2 fun s hs => by simp [h.isEnd_eq_false hs]
  have hfailed : [Stage.failed].filter (!·.isEnd) = [] := rfl
  show ((b.history ++ [Stage.failed]).filter _).getLast? = _
  rw [List.filter_append, hopen, hfailed, List.append_nil, h.stage_last]

/-- Let no sequence of a known site begin in an attempt, whatever else the page does. If the attempt fails as signing
in does, and the last stage before its end is the filling of the fields, then a field is missing that the form must
have: it is the one that the failure names, none of the selectors for it is displayed when the fields are looked for,
and in the whole attempt nothing is typed in and no key is pressed in a field. If the attempt has come to sending the
form, then it has typed into the first field of each table that is displayed, in their order and once into each, and
nothing more. Failures of signing in are those of the attempt itself; a browser has none in store. -/
theorem authenticate_fills (m : Machine) (page : String) (p : Patience) (c : Credentials)
    (requested : Option Intent) (hbegun : begun ((authenticate p c requested).transcript m page) = []) :
    ∃ outcome a m', (authenticate p c requested).run m page = (.ok (outcome, a), m') ∧
      (m.world.FailsOnly Foreign → ∀ fault, outcome = .error (.signIn fault) →
        (a.history.filter (!·.isEnd)).getLast? = some .fillingFields →
        ∃ r : FormRoute p c requested m page, r.Lacks fault ∧
          ∀ x ∈ (authenticate p c requested).transcript m page, x.question.enters = false) ∧
      (.submitting ∈ a.history → ∃ (r : FormRoute p c requested m page) (f : Fields),
        a.intent = some r.intent ∧
        f.FirstOf ((r.atFields.world.page page).displays p.probe) c r.intent ∧
        typed ((authenticate p c requested).transcript m page) = f.entries c) := by
  rw [authenticate_transcript] at hbegun ⊢
  obtain ⟨v, b, m', hrun, hclosed⟩ := (signIn_closed p c requested).runs m page
  have hcourse := signIn_course hrun hbegun
  rw [authenticate_eq, Script.run_bind, hrun]
  cases v with
  | ok _ => exact ⟨.ok (), b, m', rfl, fun _ _ => nofun, hcourse.fills⟩
  | error e =>
    refine ⟨.error e, b.advance .failed, m', rfl, ?_, ?_⟩
    · intro hstore fault hfault hlast
      cases hfault
      rw [last_before_end hclosed] at hlast
      refine hcourse.lacks hstore (fun x hx => ?_) (Option.some.inj hlast)
      exact Script.transcript_within Failure.usual_foreign hstore page _ x hx fun _ _ =>
        Failure.secretsFail_foreign
    · intro hsubmitting
      refine hcourse.fills ?_
      simpa [Attempt.advance] using hsubmitting

/-- Fields of a form to join a shop. The best one for a user name is there, but it cannot be seen. -/
def joinFields : List (String × Element) := [
  ("input[type=\"email\"]", { visible := .bool false }),
  ("input[name=\"username\" i]", {}),
  ("input[name=\"name\" i]", {}),
  ("input[type=\"password\"][name*=\"confirm\" i]", {})]

/-- The field for the password of that form. -/
def joinPassword : String × Element := ("input[name=\"password\" i]", {})

/-- A browser that shows a form with some fields. -/
def joining (elements : List (String × Element)) : Machine where
  disk := { entries := [], current := [], environment := [] }
  config := {}
  world := {
    pages := [{
      name := "main"
      url := "https://shop.example/join"
      forms := .list [.record [("visible", .bool true), ("has_password", .bool true), ("has_submit", .bool true)]]
      elements := elements }]
    context := ["main"] }
  tab := .on "main" true

/-- Who joins. -/
def newcomer : Credentials := ⟨"ada", "secret", some "Ada Lovelace"⟩

/-- What an attempt to join types in. -/
def joined : List (String × String) := [
  ("input[name=\"username\" i]", "ada"), ("input[name=\"name\" i]", "Ada Lovelace"),
  ("input[name=\"password\" i]", "secret"), ("input[type=\"password\"][name*=\"confirm\" i]", "secret")]

/-- An attempt to join with a form that has some fields. -/
abbrev joins (elements : List (String × Element)) : List Exchange × Except Failure (Except Failure Unit × Attempt) :=
  let attempt := authenticate {} newcomer (some .signup)
  (attempt.transcript (joining elements) "main", (attempt.run (joining elements) "main").1)

set_option maxRecDepth 100000 in
theorem joins_all :
    let (t, result) := joins (joinPassword :: joinFields)
    (begun t).isEmpty ∧ typed t = joined ∧
      result.toOption.any (fun o => o.2.history.contains .submitting) = true := by
  decide +kernel

/-- Why an attempt fails, where it is signing in that fails. -/
def fault? : Except Failure Unit → Option SignInFault
  | .error (.signIn fault) => some fault
  | _ => none

theorem eq_of_fault? {outcome : Except Failure Unit} {fault : SignInFault} (h : fault? outcome = some fault) :
    outcome = .error (.signIn fault) := by
  unfold fault? at h
  split at h
  · cases h
    rfl
  · cases h

set_option maxRecDepth 100000 in
theorem joins_lacking :
    let (t, result) := joins joinFields
    (begun t).isEmpty ∧ result.toOption.any (fun o => fault? o.1 == some (.noField "password") &&
      (o.2.history.filter (!·.isEnd)).getLast? == some .fillingFields) = true := by
  decide +kernel

/-- With all fields there, four texts are typed in, and the one field that cannot be seen is left out. Without the
field for the password, the other ones are left alone. -/
theorem authenticate_fills_join :
    (∃ (r : FormRoute {} newcomer (some .signup) (joining (joinPassword :: joinFields)) "main") (f : Fields),
      f.FirstOf ((r.atFields.world.page "main").displays 300) newcomer r.intent ∧ f.entries newcomer = joined) ∧
    ∃ r : FormRoute {} newcomer (some .signup) (joining joinFields) "main",
      r.Lacks (.noField "password") ∧ ∀ x ∈ (joins joinFields).1, x.question.enters = false := by
  constructor
  · obtain ⟨hbegun, htyped, hsubmitting⟩ := joins_all
    obtain ⟨outcome, a, m', hrun, -, hfills⟩ := authenticate_fills (joining (joinPassword :: joinFields)) "main" {}
      newcomer (some .signup) (List.isEmpty_iff.1 hbegun)
    rw [hrun] at hsubmitting
    obtain ⟨r, f, -, hfirst, hentries⟩ := hfills (by simpa [Except.toOption] using hsubmitting)
    exact ⟨r, f, hfirst, hentries.symm.trans htyped⟩
  · obtain ⟨hbegun, hfailed⟩ := joins_lacking
    obtain ⟨outcome, a, m', hrun, hlacks, -⟩ := authenticate_fills (joining joinFields) "main" {}
      newcomer (some .signup) (List.isEmpty_iff.1 hbegun)
    rw [hrun] at hfailed
    have hshown : ∀ x ∈ joinFields, x.2.visibilityFailure = none := by simp [joinFields]
    have hpage : ∀ p ∈ (joining joinFields).world.pages, p.FailsOnly Foreign := by
      intro p hp
      rw [List.mem_singleton.1 hp]
      refine ⟨?_, List.forall_mem_nil _, List.forall_mem_nil _, List.forall_mem_nil _⟩
      intro x hx f hf
      cases (hshown x hx).symm.trans hf
    have hstore : (joining joinFields).world.FailsOnly Foreign :=
      ⟨hpage, List.forall_mem_nil _, List.forall_mem_nil _⟩
    obtain ⟨hfault, hlast⟩ : fault? outcome = some (.noField "password") ∧
        (a.history.filter (!·.isEnd)).getLast? = some .fillingFields := by
      simpa [Except.toOption] using hfailed
    exact hlacks hstore _ (eq_of_fault? hfault) hlast

end BrowserScript.SignIn
