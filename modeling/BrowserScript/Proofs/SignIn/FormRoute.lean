/-
BrowserScript.Proofs.SignIn.FormRoute — how an attempt comes to fill a form in itself.

An attempt fills in a form itself when it stands at one and no known site settles it from there.
`FormRoute` holds the run up to that point: where the attempt stood, and the machines at the form and at
the first look for a field, between which a known site may have been tried.

* `formRoute?` finds the route of a run, if it has one.
* `FormRoute.transcript_authenticate`: the exchanges of the attempt are those up to the form, those with
  the site, those of the filling, and whatever follows.
* `exists_formRoute`: an attempt that succeeds with the strategy for every site has a route, and it goes
  on with filling in, sending and waiting.
-/
import BrowserScript.Proofs.SignIn.KnownSite

namespace BrowserScript.SignIn

open Browser

/-- The address of a page. -/
def address (m : Machine) (page : String) : String := (m.world.page page).url

theorem run_url (m : Machine) (page : String) : Script.url.run m page = (.ok (address m page), m) :=
  rfl

/-! ## §1 Routes -/

/-- The run of an attempt up to where it fills in a form itself. -/
structure FormRoute (p : Patience) (c : Credentials) (requested : Option Intent) (m : Machine)
    (page : String) where
  intent : Intent
  before : String
  siteTried : Bool
  /-- the attempt and the machine when the form has been classified -/
  arrived : Attempt
  atForm : Machine
  /-- the attempt and the machine when the fields are looked for -/
  going : Attempt
  atFields : Machine
  approached : (Flow.on (approach p c requested) { intent := requested }).run m page
    = (.ok (.ok (.atForm intent before siteTried), arrived), atForm)
  unsettled : (Flow.on (lateSite p c intent siteTried) arrived).run atForm page
    = (.ok (.ok false, going), atFields)

/-- The route of a run. -/
def formRoute? (p : Patience) (c : Credentials) (requested : Option Intent) (m : Machine)
    (page : String) : Option (FormRoute p c requested m page) :=
  match happroached : (Flow.on (approach p c requested) { intent := requested }).run m page with
  | (.ok (.ok (.atForm intent before siteTried), arrived), atForm) =>
    match hunsettled : (Flow.on (lateSite p c intent siteTried) arrived).run atForm page with
    | (.ok (.ok false, going), atFields) =>
      some ⟨intent, before, siteTried, arrived, atForm, going, atFields, happroached, hunsettled⟩
    | _ => none
  | _ => none

namespace FormRoute

variable {p : Patience} {c : Credentials} {requested : Option Intent} {m : Machine} {page : String}

/-- A run has one route at most. -/
theorem eq_of_run (r r' : FormRoute p c requested m page) : r = r' := by
  obtain ⟨intent, before, siteTried, arrived, atForm, going, atFields, happroached, hunsettled⟩ := r
  obtain ⟨intent', before', siteTried', arrived', atForm', going', atFields', happroached',
    hunsettled'⟩ := r'
  cases happroached.symm.trans happroached'
  cases hunsettled.symm.trans hunsettled'
  rfl

/-- The exchanges up to the form. -/
def toForm (_ : FormRoute p c requested m page) : List Exchange :=
  (Flow.on (approach p c requested) { intent := requested }).transcript m page

/-- The exchanges of the site that is tried at the form. -/
def atSite (r : FormRoute p c requested m page) : List Exchange :=
  (Flow.on (lateSite p c r.intent r.siteTried) r.arrived).transcript r.atForm page

/-- The exchanges of the filling. -/
def filling (r : FormRoute p c requested m page) : List Exchange :=
  (fillForm p c r.intent).transcript r.atFields page

/-- When an intent was asked for, no site is tried at the form. -/
theorem lateSite_eq (r : FormRoute p c requested m page) (h : requested ≠ none) :
    lateSite p c r.intent r.siteTried = pure false :=
  lateSite_skipped p c (((approach_standing p c requested).of_run r.approached).2
    r.intent r.before r.siteTried rfl h)

theorem atSite_eq_nil (r : FormRoute p c requested m page) (h : requested ≠ none) : r.atSite = [] := by
  unfold atSite
  rw [r.lateSite_eq h]
  rfl

theorem atFields_eq (r : FormRoute p c requested m page) (h : requested ≠ none) :
    r.atFields = r.atForm := by
  have hrun := r.unsettled
  rw [r.lateSite_eq h] at hrun
  exact (congrArg Prod.snd hrun).symm

end FormRoute

/-! ## §2 The exchanges of an attempt -/

section

variable {p : Patience} {c : Credentials} {requested : Option Intent} {m : Machine} {page : String}

theorem signIn_eq (p : Patience) (c : Credentials) (requested : Option Intent) :
    signIn p c requested = approach p c requested >>= fun standing =>
      fillIn p c standing >>= fun q => finish p q.1 q.2 := rfl

theorem authenticate_eq (p : Patience) (c : Credentials) (requested : Option Intent) :
    authenticate p c requested = (Flow.on (signIn p c requested) { intent := requested } >>= fun o =>
      match o.1 with
      | .ok () => .done (.ok (), o.2)
      | .error e => .done (.error e, o.2.advance .failed)) := rfl

/-- The end of an attempt exchanges nothing. -/
theorem authenticate_transcript (p : Patience) (c : Credentials) (requested : Option Intent) (m : Machine)
    (page : String) : (authenticate p c requested).transcript m page
      = (Flow.on (signIn p c requested) { intent := requested }).transcript m page := by
  rw [authenticate_eq, Script.transcript_bind]
  rcases (Flow.on (signIn p c requested) { intent := requested }).run m page with ⟨e | ⟨e | v, a⟩, m'⟩
  · exact List.append_nil _
  · exact List.append_nil _
  · exact List.append_nil _

theorem FormRoute.transcript_fillIn (r : FormRoute p c requested m page) :
    r.atSite ++ r.filling <+:
      (Flow.on (fillIn p c (.atForm r.intent r.before r.siteTried)) r.arrived).transcript
        r.atForm page := by
  have hfillIn : fillIn p c (.atForm r.intent r.before r.siteTried)
      = lateSite p c r.intent r.siteTried >>= fun bySite =>
        if bySite then pure (true, r.before)
        else Flow.lift (fillForm p c r.intent) >>= fun _ => pure (false, r.before) := rfl
  have hfill := Flow.transcript_prefix (Flow.lift (fillForm p c r.intent))
    (fun _ => pure (false, r.before)) r.going r.atFields page
  rw [Flow.transcript_lift] at hfill
  rw [hfillIn, Flow.transcript_bind r.unsettled]
  exact List.prefix_append_right_inj _ |>.2 hfill

/-- An attempt asks what its route asks, then looks for the fields and fills them in, and goes on. -/
theorem FormRoute.transcript_authenticate (r : FormRoute p c requested m page) :
    r.toForm ++ r.atSite ++ r.filling <+: (authenticate p c requested).transcript m page := by
  have hrest := Flow.transcript_prefix (fillIn p c (.atForm r.intent r.before r.siteTried))
    (fun q => finish p q.1 q.2) r.arrived r.atForm page
  rw [authenticate_transcript, signIn_eq, Flow.transcript_bind r.approached, List.append_assoc]
  exact (List.prefix_append_right_inj _).2 (r.transcript_fillIn.trans hrest)

/-! ## §3 Attempts that succeed -/

theorem detect_run {a a' : Attempt} {m' : Machine} {intent : Intent} {before : String}
    (h : (Flow.on (detect requested) a).run m page = (.ok (.ok (intent, before), a'), m')) :
    before = address m' page ∧ a'.intent = some intent := by
  unfold detect at h
  obtain ⟨_, _, _, hadvance, h⟩ := Flow.run_bind_eq_ok.1 h
  obtain ⟨found, b, m₁, -, h⟩ := Flow.run_bind_eq_ok.1 h
  obtain ⟨_, _, _, hknow, h⟩ := Flow.run_bind_eq_ok.1 h
  cases hknow
  obtain ⟨_, _, _, hadvance', h⟩ := Flow.run_bind_eq_ok.1 h
  cases hadvance'
  obtain ⟨_, _, _, hurl, h⟩ := Flow.run_bind_eq_ok.1 h
  obtain ⟨rfl, hurl⟩ := Flow.run_lift_eq_ok.1 hurl
  cases hurl
  cases h
  exact ⟨rfl, rfl⟩

/-- The address that the wait compares with is that of the form, before any site is tried there. -/
theorem approach_run {a a' : Attempt} {m' : Machine} {intent : Intent} {before : String}
    {siteTried : Bool}
    (h : (Flow.on (approach p c requested) a).run m page
      = (.ok (.ok (.atForm intent before siteTried), a'), m')) :
    before = address m' page ∧ a'.intent = some intent := by
  unfold approach at h
  obtain ⟨_, _, _, -, h⟩ := Flow.run_bind_eq_ok.1 h
  obtain ⟨_, _, _, -, h⟩ := Flow.run_bind_eq_ok.1 h
  obtain ⟨settled, _, _, -, h⟩ := Flow.run_bind_eq_ok.1 h
  cases settled with
  | true =>
    obtain ⟨_, _, _, -, h⟩ := Flow.run_bind_eq_ok.1 h
    obtain ⟨_, _, _, -, h⟩ := Flow.run_bind_eq_ok.1 h
    obtain ⟨_, _, _, -, h⟩ := Flow.run_bind_eq_ok.1 h
    cases h
  | false =>
    obtain ⟨_, _, _, -, h⟩ := Flow.run_bind_eq_ok.1 h
    obtain ⟨⟨intent', before'⟩, _, _, hdetect, h⟩ := Flow.run_bind_eq_ok.1 h
    cases h
    exact detect_run hdetect

/-- Sending: the strategy stays, and an attempt that no site has settled submits the form. -/
theorem send_run {a a' : Attempt} {m' : Machine} {bySite : Bool}
    (h : (Flow.on (send p bySite) a).run m page = (.ok (.ok (), a'), m')) :
    a'.strategy = a.strategy ∧ (bySite = false →
      (submitForm p (a.intent.getD .login)).run m page = (.ok a'.submittedVia, m')) := by
  unfold send at h
  cases bySite with
  | true =>
    cases h
    exact ⟨rfl, nofun⟩
  | false =>
    obtain ⟨_, _, _, hget, hrest⟩ := Flow.run_bind_eq_ok.1 h
    cases hget
    obtain ⟨via, b, _, hvia, hchange⟩ := Flow.run_bind_eq_ok.1 hrest
    obtain ⟨hb, hsubmit⟩ := Flow.run_lift_eq_ok.1 hvia
    cases hchange
    exact ⟨hb ▸ rfl, fun _ => hsubmit⟩

/-- The end of an attempt: it sends the form and then waits. -/
theorem finish_run {a a' : Attempt} {m' : Machine} {bySite : Bool} {before : String}
    (h : (Flow.on (finish p bySite before) a).run m page = (.ok (.ok (), a'), m')) :
    a'.strategy = a.strategy ∧ ∃ sent,
      (bySite = false →
        (submitForm p (a.intent.getD .login)).run m page = (.ok a'.submittedVia, sent)) ∧
      (waitForNavigation p before).run sent page = (.ok a'.navigated, m') := by
  unfold finish at h
  obtain ⟨_, _, _, hadvance, hsending⟩ := Flow.run_bind_eq_ok.1 h
  cases hadvance
  obtain ⟨_, b, sent, hsend, hwaiting⟩ := Flow.run_bind_eq_ok.1 hsending
  obtain ⟨hstrategy, hsubmit⟩ := send_run hsend
  obtain ⟨navigated, b₁, m₁, hwait, hlooking⟩ := Flow.run_bind_eq_ok.1 hwaiting
  obtain ⟨hb₁, hwait⟩ := Flow.run_lift_eq_ok.1 hwait
  obtain ⟨url, b₂, m₂, hurl, hlast⟩ := Flow.run_bind_eq_ok.1 hlooking
  obtain ⟨hb₂, hurl⟩ := Flow.run_lift_eq_ok.1 hurl
  rw [run_url] at hurl
  cases hurl
  cases hlast
  rw [hb₂, hb₁]
  exact ⟨hstrategy, sent, hsubmit, hwait⟩

/-- An attempt that keeps the strategy for every site has a form before it, tries the site of the form
in vain and fills the form in. -/
theorem fillIn_run {a a' : Attempt} {m' : Machine} {standing : Standing} {bySite : Bool}
    {before : String}
    (h : (Flow.on (fillIn p c standing) a).run m page = (.ok (.ok (bySite, before), a'), m'))
    (hsettled : ∀ start : String, standing = .settled start → a.strategy ≠ genericStrategy)
    (hstrategy : a'.strategy = genericStrategy) :
    ∃ intent siteTried atFields,
      standing = .atForm intent before siteTried ∧ bySite = false ∧ a'.intent = a.intent ∧
      (Flow.on (lateSite p c intent siteTried) a).run m page = (.ok (.ok false, a'), atFields) ∧
      (fillForm p c intent).run atFields page = (.ok (), m') := by
  cases standing with
  | settled start =>
    cases h
    exact absurd hstrategy (hsettled _ rfl)
  | atForm intent before' siteTried =>
    unfold fillIn at h
    obtain ⟨settled, b, atFields, hlate, hrest⟩ := Flow.run_bind_eq_ok.1 h
    have hsite := (lateSite_record p c intent siteTried).of_run hlate
    cases settled with
    | true =>
      rw [if_pos rfl] at hrest
      cases hrest
      exact absurd hstrategy (hsite.settled rfl)
    | false =>
      rw [if_neg (by decide)] at hrest
      obtain ⟨_, b₁, m₁, hfill, hend⟩ := Flow.run_bind_eq_ok.1 hrest
      obtain ⟨rfl, hfilled⟩ := Flow.run_lift_eq_ok.1 hfill
      cases hend
      exact ⟨intent, siteTried, atFields, rfl, rfl, hsite.intent_eq, hlate, hfilled⟩

/-- An attempt that succeeds with the strategy for every site has a route, and from there it fills the
form in, sends it and waits until the page has left the address of the form. -/
theorem exists_formRoute {a : Attempt} {m' : Machine}
    (h : (authenticate p c requested).run m page = (.ok (.ok (), a), m'))
    (hstrategy : a.strategy = genericStrategy) :
    ∃ (r : FormRoute p c requested m page) (filled sent : Machine),
      (fillForm p c r.intent).run r.atFields page = (.ok (), filled) ∧
      (submitForm p r.intent).run filled page = (.ok a.submittedVia, sent) ∧
      (waitForNavigation p (address r.atForm page)).run sent page = (.ok a.navigated, m') := by
  rw [authenticate_eq] at h
  obtain ⟨⟨result, b⟩, m₀, hsignIn, h⟩ := Script.run_bind_eq_ok.1 h
  cases result with
  | error e => cases h
  | ok _ =>
    cases h
    rw [signIn_eq] at hsignIn
    obtain ⟨standing, arrived, atForm, happroach, hrest⟩ := Flow.run_bind_eq_ok.1 hsignIn
    obtain ⟨⟨bySite, before⟩, going, filled, hfillIn, hfinish⟩ := Flow.run_bind_eq_ok.1 hrest
    obtain ⟨hkept, sent, hsubmit, hwait⟩ := finish_run hfinish
    have hsettled := ((approach_standing p c requested).of_run happroach).1
    obtain ⟨intent, siteTried, atFields, rfl, rfl, hintent, hlate, hfill⟩ :=
      fillIn_run hfillIn (fun start hstart => hsettled start (hstart ▸ rfl)) (hkept ▸ hstrategy)
    obtain ⟨rfl, harrived⟩ := approach_run happroach
    have hsubmit := hsubmit rfl
    rw [hintent, harrived] at hsubmit
    exact ⟨⟨intent, _, siteTried, arrived, atForm, going, atFields, happroach, hlate⟩, filled, sent,
      hfill, hsubmit, hwait⟩

end

/-! ## §4 A login in two steps -/

/-- The first page of a known site that asks for the password on a second one. The form already holds a
field for it, and the second page shows no form. -/
def twoStepPage : Page where
  name := "main"
  url := "https://accounts.google.com/"
  forms := .list [.record [("visible", .bool true), ("has_password", .bool true),
    ("has_submit", .bool true)]]
  elements := [
    ("input[type=\"email\"]", {}),
    ("#identifierNext", {}),
    ("input[type=\"password\"]:not([name*=\"confirm\" i]):not([id*=\"confirm\" i])", {}),
    ("button[type=\"submit\"]", {})]
  onClick := [("#identifierNext", [.visit none "https://accounts.google.com/next"])]
  routes := [("https://accounts.google.com/next", { forms := some (.list []) })]

/-- A browser that shows that page and nothing else. -/
def twoStepMachine : Machine where
  disk := { entries := [], current := [], environment := [] }
  config := {}
  world := { pages := [twoStepPage], context := ["main"] }
  tab := .on "main" true

/-- What is typed in there. -/
def someCredentials : Credentials := ⟨"ada", "secret", none⟩

end BrowserScript.SignIn
