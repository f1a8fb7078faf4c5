/-
BrowserScript.Proofs.SignIn.FormSearch — what is clicked while a form is looked for.

An attempt looks for a form unless a known site has settled it before. `FormSearch` holds the run up to there, and
`FormSearch.search` the exchanges of the search.

* `formSearch?` finds the search of a run, if it has one.
* `unclicked_of_composed`: a composed script clicks nothing unless it does so on its own.
* `clickLink_linkClick`: a link is clicked right after it was found, and the selectors ranked above it were passed
  over just before that, each for a reason that its exchange shows.

Main statement: `search_clicks`. A search clicks one link at most. It is the best one of the table for the intent
under which there is an element that can be seen and does not speak of the other intent. `search_clicks_shop` is a
page where a link with the right address is passed over because it says that an account is created.
-/
import BrowserScript.Proofs.SignIn.Verified
import BrowserScript.Proofs.Target.Sought

namespace BrowserScript

/-- Whether a question clicks an element. -/
def Browser.Question.clicks : Browser.Question → Bool
  | .page (.click _) | .page (.clickFound _) => true
  | _ => false

namespace SignIn

open Browser Target
open Failure (Accident)

variable {p : Patience} {c : Credentials} {requested : Option Intent} {m : Machine} {page : String}

/-! ## §1 Searches -/

/-- The run of an attempt up to where it looks for a form. -/
structure FormSearch (p : Patience) (c : Credentials) (requested : Option Intent) (m : Machine)
    (page : String) where
  siteFirst : Bool
  /-- the attempt and the machine when it is known whether a site comes first -/
  asked : Attempt
  atSite : Machine
  /-- the attempt and the machine when no site has settled it -/
  seeking : Attempt
  atSearch : Machine
  decided : (Flow.on (siteComesFirst requested) { intent := requested }).run m page
    = (.ok (.ok siteFirst, asked), atSite)
  unsettled : (Flow.on (earlySite p c siteFirst) asked).run atSite page
    = (.ok (.ok false, seeking), atSearch)

/-- The search of a run. -/
def formSearch? (p : Patience) (c : Credentials) (requested : Option Intent) (m : Machine)
    (page : String) : Option (FormSearch p c requested m page) :=
  match hdecided : (Flow.on (siteComesFirst requested) { intent := requested }).run m page with
  | (.ok (.ok siteFirst, asked), atSite) =>
    match hunsettled : (Flow.on (earlySite p c siteFirst) asked).run atSite page with
    | (.ok (.ok false, seeking), atSearch) =>
      some ⟨siteFirst, asked, atSite, seeking, atSearch, hdecided, hunsettled⟩
    | _ => none
  | _ => none

namespace FormSearch

/-- The exchanges up to the search. -/
def toSearch (r : FormSearch p c requested m page) : List Exchange :=
  ⟨.url, .ok (address m page)⟩ ::
    ((Flow.on (siteComesFirst requested) { intent := requested }).transcript m page
      ++ (Flow.on (earlySite p c r.siteFirst) r.asked).transcript r.atSite page)

/-- The exchanges of the search. -/
def search (r : FormSearch p c requested m page) : List Exchange :=
  (Flow.on (reachForm p (requested.getD .login)) r.seeking).transcript r.atSearch page

/-- No stage was passed before the search. -/
theorem seeking_eq (r : FormSearch p c requested m page) : r.seeking = { intent := requested } := by
  have hasked := ((siteComesFirst_record requested).of_run r.decided).1
  have hseeking := ((earlySite_record p c r.siteFirst).of_run r.unsettled).same nofun
  rw [hseeking, hasked]

theorem transcript_approach (r : FormSearch p c requested m page) :
    r.toSearch ++ r.search <+: (Flow.on (approach p c requested) { intent := requested }).transcript m page := by
  have hurl : (Flow.on (Flow.lift Script.url) { intent := requested }).run m page
      = (.ok (.ok (address m page), { intent := requested }), m) := by
    rw [Flow.run_lift, run_url]
  unfold approach
  rw [Flow.transcript_bind hurl, Flow.transcript_bind r.decided, Flow.transcript_bind r.unsettled,
    Flow.transcript_lift, toSearch, List.cons_append, List.append_assoc]
  refine List.cons_prefix_cons.2 ⟨rfl, (List.prefix_append_right_inj _).2 ((List.prefix_append_right_inj _).2 ?_)⟩
  exact Flow.transcript_prefix _ _ _ _ _

/-- An attempt begins with the exchanges up to its search and those of the search. -/
theorem transcript_authenticate (r : FormSearch p c requested m page) :
    r.toSearch ++ r.search <+: (authenticate p c requested).transcript m page := by
  rw [authenticate_transcript, signIn_eq]
  exact r.transcript_approach.trans (Flow.transcript_prefix _ _ _ _ _)

end FormSearch

/-! ## §2 Links -/

/-- The other one of two intents. -/
def Intent.other : Intent → Intent
  | .login => .signup
  | .signup => .login

/-- The words of links for an intent. -/
def Intent.words : Intent → List String
  | .login => loginWords
  | .signup => signupWords

/-- A link that carries one of some words in its text, address or label. -/
def Carries (words : List String) (e : Element) : Prop :=
  ∃ word ∈ words, Text.contains (linkText e) word = true

theorem lacksWords_excludedWords (intent : Intent) (e : Element) :
    lacksWords intent.excludedWords e = true ↔ ¬ Carries intent.other.words e := by
  have hwords : intent.excludedWords = intent.other.words := by cases intent <;> rfl
  simp [lacksWords, Carries, hwords]

/-- Exchanges in which nothing is clicked. -/
def Unclicked (t : List Exchange) : Prop := ∀ x ∈ t, x.question.clicks = false

theorem unclicked_append {t u : List Exchange} : Unclicked (t ++ u) ↔ Unclicked t ∧ Unclicked u :=
  List.forall_mem_append

theorem Unclicked.filter_eq_nil {t : List Exchange} (h : Unclicked t) : t.filter (·.question.clicks) = [] :=
  List.filter_eq_nil_iff.2 fun x hx => by simp [h x hx]

theorem unclicked_looks {timeout : Int} {Refused : Element → Prop} {selectors : List String} {looks : List Exchange}
    (h : List.Forall₂ (PassedOver timeout Refused) selectors looks) : Unclicked looks := by
  induction h with
  | nil => exact List.forall_mem_nil _
  | cons hlook _ ih => exact List.forall_mem_cons.2 ⟨by cases hlook <;> rfl, ih⟩

/-- The exchanges of a search for a link: nothing is clicked, or the best link that fits is, right after it and the
links ranked above it were looked for. -/
inductive LinkClick (p : Patience) (intent : Intent) : List Exchange → Prop
  | unclicked {t : List Exchange} (h : Unclicked t) : LinkClick p intent t
  | clicked {better worse : List String} {selector : String} {before looks after : List Exchange} {e : Element}
      {reply : Except Failure Unit} (hbefore : Unclicked before) (hafter : Unclicked after)
      (hsplit : intent.links = better ++ selector :: worse)
      (hbetter : List.Forall₂ (PassedOver p.probe (Carries intent.other.words)) better looks)
      (hshown : e.shown = .ok true) (hfits : ¬ Carries intent.other.words e) :
      LinkClick p intent (before ++ looks ++ [⟨.page (.probe selector p.probe), .ok e⟩] ++
        ⟨.page (.click selector), reply⟩ :: after)

namespace LinkClick

variable {intent : Intent} {t u : List Exchange}

theorem append_left (h : LinkClick p intent u) (ht : Unclicked t) : LinkClick p intent (t ++ u) := by
  cases h with
  | unclicked hu => exact .unclicked (unclicked_append.2 ⟨ht, hu⟩)
  | clicked hbefore hafter hsplit hbetter hshown hfits =>
    simp only [← List.append_assoc]
    exact .clicked (unclicked_append.2 ⟨ht, hbefore⟩) hafter hsplit hbetter hshown hfits

theorem append_right (h : LinkClick p intent t) (hu : Unclicked u) : LinkClick p intent (t ++ u) := by
  cases h with
  | unclicked ht => exact .unclicked (unclicked_append.2 ⟨ht, hu⟩)
  | clicked hbefore hafter hsplit hbetter hshown hfits =>
    rw [List.append_assoc, List.cons_append]
    exact .clicked hbefore (unclicked_append.2 ⟨hafter, hu⟩) hsplit hbetter hshown hfits

end LinkClick

/-! ## §3 What is asked on the way to a form -/

theorem unclicked_of_composed {α : Type} {F : Failure → Prop} {s : Script α}
    (h : s.Composed (·.clicks = false) F) : s.Ensures (fun t _ => Unclicked t) :=
  h.toAsks fun _ _ => rfl

/-- A link is clicked after it was found, and then nothing more. -/
theorem clickLink_linkClick (p : Patience) (intent : Intent) :
    (clickLink p intent).Ensures (fun t _ => LinkClick p intent t) := by
  unfold clickLink
  refine .bind (resolve_sought (lacksWords_excludedWords intent) intent.links) ?_ ?_
  · intro t r hsought
    cases hsought with
    | @taken better worse selector looks e r hsplit hbetter hshown hfits hr =>
      rw [hr]
      have hclick : (Script.page (.click selector) >>= fun _ => settle p >>= fun _ => pure true).Ensures
          (fun u _ => ∃ reply after, u = ⟨.page (.click selector), reply⟩ :: after ∧ Unclicked after) := by
        refine .bind (P := fun u _ => ∃ reply, u = [⟨.page (.click selector), reply⟩])
          (.query fun reply => ⟨reply, rfl⟩) ?_ ?_
        · rintro _ _ ⟨reply, rfl⟩
          have hrest : (settle p >>= fun _ => (pure true : Script Bool)).Composed (·.clicks = false) Accident :=
            .bind (composed_settle rfl) fun _ => .done _
          exact (unclicked_of_composed hrest).mono fun after _ hafter => ⟨reply, after, rfl, hafter⟩
        · rintro _ _ ⟨reply, rfl⟩
          exact ⟨reply, [], rfl, List.forall_mem_nil _⟩
      refine hclick.mono ?_
      rintro _ v ⟨reply, after, rfl, hafter⟩
      have hnothing : Unclicked [] := List.forall_mem_nil _
      exact .clicked hnothing hafter hsplit hbetter hshown hfits
    | exhausted hall hr =>
      rw [hr]
      exact .unclicked (unclicked_append.2 ⟨unclicked_looks hall, List.forall_mem_nil _⟩)
  · intro t e hsought
    cases hsought with
    | escaped hsplit hbetter =>
      exact .unclicked (unclicked_append.2 ⟨unclicked_looks hbetter, List.forall_mem_singleton.2 rfl⟩)

/-- Looking for a form clicks a link at most. -/
theorem reachForm_linkClick (p : Patience) (intent : Intent) {a : Attempt} :
    Flow.Ensures (reachForm p intent) a (fun t _ _ => LinkClick p intent t) := by
  have hforms : hasAuthForm.Ensures (fun t _ => Unclicked t) := unclicked_of_composed (composed_hasAuthForm rfl)
  have hlink : (do if ← clickLink p intent then hasAuthForm else pure false : Script Bool).Ensures
      (fun t _ => LinkClick p intent t) := by
    refine .bind (clickLink_linkClick p intent) ?_ (fun _ _ ht => ht)
    intro t clicked ht
    split
    · exact hforms.mono fun u _ hu => ht.append_right hu
    · exact ht.append_right (List.forall_mem_nil _)
  have hpaths : (probePaths p intent).Ensures (fun t _ => Unclicked t) :=
    unclicked_of_composed (composed_probePaths (K := (·.clicks = false)) rfl rfl (fun _ => rfl) intent)
  unfold reachForm
  refine .bind_lift hforms ?_ (fun _ _ ht => .unclicked ht)
  intro t here ht
  split
  · exact .advance (.unclicked (unclicked_append.2 ⟨ht, List.forall_mem_nil _⟩))
  · refine .bind_advance (.bind_lift hlink ?_ (fun _ _ hu => hu.append_left ht))
    intro u viaLink hu
    split
    · exact .advance ((hu.append_right (List.forall_mem_nil _)).append_left ht)
    · refine .bind_lift hpaths ?_ (fun _ _ hw => (hu.append_right hw).append_left ht)
      intro w viaPath hw
      split
      · exact .advance ((hu.append_right (unclicked_append.2 ⟨hw, List.forall_mem_nil _⟩)).append_left ht)
      · exact .fail ((hu.append_right (unclicked_append.2 ⟨hw, List.forall_mem_nil _⟩)).append_left ht)

/-! ## §4 The click of a search -/

/-- While an attempt looks for a form it clicks one element at most. The click is on a selector of the table of links
for the intent that was asked for, or else for a login, and comes right after this selector was found to have an
element that can be seen and carries no word of the other intent. The selectors ranked above it were looked for just
before, in their order, and each of them had no element, or one that nobody sees, or one that can be seen and carries
such a word. -/
theorem search_clicks (r : FormSearch p c requested m page) :
    r.toSearch ++ r.search <+: (authenticate p c requested).transcript m page ∧
    (r.search.filter (·.question.clicks)).length ≤ 1 ∧
    ∀ before x after, r.search = before ++ x :: after → x.question.clicks = true →
      ∃ better selector worse earlier looks e,
        x.question = .page (.click selector) ∧
        (requested.getD .login).links = better ++ selector :: worse ∧
        before = earlier ++ looks ++ [⟨.page (.probe selector p.probe), .ok e⟩] ∧
        e.shown = .ok true ∧ ¬ Carries (requested.getD .login).other.words e ∧
        List.Forall₂ (PassedOver p.probe (Carries (requested.getD .login).other.words)) better looks := by
  refine ⟨r.transcript_authenticate, ?_⟩
  have hclick : LinkClick p (requested.getD .login) r.search := by
    obtain ⟨v, a', -, h⟩ := Script.Ensures.run (reachForm_linkClick p (requested.getD .login)) r.atSearch page
    exact h
  generalize r.search = t at hclick
  cases hclick with
  | unclicked hnone =>
    refine ⟨by simp [hnone.filter_eq_nil], ?_⟩
    rintro before x after rfl hx
    have hx' := hnone x (List.mem_append_right _ List.mem_cons_self)
    rw [hx] at hx'
    cases hx'
  | @clicked better worse selector earlier looks later e reply hbefore hafter hsplit hbetter hshown hfits =>
    have hearlier : Unclicked (earlier ++ looks ++ [⟨.page (.probe selector p.probe), .ok e⟩]) :=
      unclicked_append.2 ⟨unclicked_append.2 ⟨hbefore, unclicked_looks hbetter⟩, List.forall_mem_singleton.2 rfl⟩
    refine ⟨?_, ?_⟩
    · rw [List.filter_append, hearlier.filter_eq_nil, List.filter_cons, hafter.filter_eq_nil]
      exact Nat.le_refl _
    · intro before x after heq hx
      have hnotin : ∀ {t : List Exchange}, Unclicked t → x ∉ t := fun ht hmem => by
        rw [ht x hmem] at hx
        cases hx
      obtain ⟨rfl, rfl, rfl⟩ := (List.append_cons_inj_of_notMem (hnotin hearlier) (hnotin hafter)).1 heq
      exact ⟨better, selector, worse, earlier, looks, e, rfl, hsplit, rfl, hshown, hfits, hbetter⟩

/-! ## §5 A shop -/

/-- The descriptions of the forms of a page for signing in. -/
def passwordForm : Value :=
  .list [.record [("visible", .bool true), ("has_password", .bool true), ("has_submit", .bool true)]]

/-- The front page of a shop with a link for customers, and one for those who want to become one that leads to the
same place. -/
def shopPage : Page where
  name := "main"
  url := "https://shop.example/"
  elements := [
    ("a[href*=\"signin\" i]", { text := some "Create account", attributes := [("href", "/signin?next=register")] }),
    ("a:has-text(\"Sign in\")", { text := some "Sign in", attributes := [("href", "/signin")] })]
  onClick := [("a:has-text(\"Sign in\")", [.visit none "https://shop.example/signin"])]
  routes := [("https://shop.example/signin", { forms := some passwordForm })]

/-- A browser that shows the shop and nothing else. -/
def shopMachine : Machine where
  disk := { entries := [], current := [], environment := [] }
  config := {}
  world := { pages := [shopPage], context := ["main"] }
  tab := .on "main" true

/-- Whether a question clicks the link for customers. -/
def clicksSignIn : Question → Bool
  | .page (.click selector) => selector == "a:has-text(\"Sign in\")"
  | _ => false

theorem eq_of_clicksSignIn {q : Question} (h : clicksSignIn q = true) :
    q = .page (.click "a:has-text(\"Sign in\")") := by
  unfold clicksSignIn at h
  split at h
  · rw [eq_of_beq h]
  · cases h

set_option maxRecDepth 100000 in
theorem shop_search :
    (formSearch? {} someCredentials (some .login) shopMachine "main").any
      (fun r => r.search.any (clicksSignIn ·.question)) = true := by
  decide +kernel

theorem search_clicks_shop :
    ∃ (r : FormSearch {} someCredentials (some .login) shopMachine "main") (before : List Exchange) (x : Exchange)
      (after : List Exchange) (better worse : List String),
      r.search = before ++ x :: after ∧ x.question = .page (.click "a:has-text(\"Sign in\")") ∧
      loginLinks = better ++ "a:has-text(\"Sign in\")" :: worse := by
  obtain ⟨r, -, hr⟩ := Option.any_eq_true _ _ |>.1 shop_search
  obtain ⟨⟨q, reply⟩, hx, hsignIn⟩ := List.any_eq_true.1 hr
  obtain ⟨before, after, hsplit⟩ := List.append_of_mem hx
  cases eq_of_clicksSignIn hsignIn
  obtain ⟨better, selector, worse, -, -, -, hquestion, hlinks, -⟩ := (search_clicks r).2.2 before _ after hsplit rfl
  cases hquestion
  exact ⟨r, before, _, after, better, worse, hsplit, rfl, hlinks⟩

end SignIn
end BrowserScript
