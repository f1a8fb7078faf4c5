/-
BrowserScript.Proofs.SignIn.KnownSite — what the sequence of a known site does to an attempt.

* `siteSequence_domain`: a sequence that goes through names a known site.
* `trySite_record`: trying a site passes no stage, and it changes the attempt only where it settles it.
* `approach_standing`, `lateSite_skipped`: a site is tried after a form was found only where the intent
  was left open.
-/
import BrowserScript.Proofs.SignIn.Flow

namespace BrowserScript.SignIn

open Browser

theorem sites_domain_ne : ∀ site ∈ sites, site.domain ≠ genericStrategy := by decide

theorem siteFor_mem {url : String} {site : Site} (h : siteFor url = .ok (some site)) :
    site ∈ sites := by
  unfold siteFor at h
  cases hd : domainOf url with
  | error e => rw [hd] at h; cases h
  | ok host =>
    rw [hd] at h
    have hfind : (if host == "" then none else sites.find? (fun s => inDomain host s.domain))
        = some site := Except.ok.inj h
    split at hfind
    · cases hfind
    · exact List.mem_of_find?_eq_some hfind

/-- A site sequence that goes through names its domain. -/
theorem siteSequence_domain (p : Patience) (c : Credentials) :
    (siteSequence p c).Ensures (fun _ r => ∀ domain, r = .ok (some domain) →
      domain ≠ genericStrategy) := by
  unfold siteSequence
  refine .bind (.any _) ?_ nofun
  intro t url _
  split
  · exact nofun
  · exact nofun
  · rename_i site hsite
    have hgoes : (runSteps c p.navigation site.steps >>= fun _ => .done (some site.domain)).Ensures
        (fun _ r => ∀ domain, r = .ok (some domain) → domain = site.domain) := by
      refine .bind (.any _) (fun _ _ _ domain hdomain => ?_) nofun
      cases hdomain
      rfl
    refine .onRefusal hgoes ?_ (fun _ _ _ _ _ h => nomatch h) (fun _ _ _ _ h => nomatch h)
    intro t domain? hd domain hdomain
    rw [hd domain hdomain]
    exact sites_domain_ne site (siteFor_mem hsite)

variable {a : Attempt}

/-- What trying a site leaves of an attempt: stages and intent stay, the strategy is another one where the
site settles the attempt, and otherwise nothing changes. -/
structure SiteRecord (a : Attempt) (v : Except Failure Bool) (a' : Attempt) : Prop where
  history_eq : a'.history = a.history
  stage_eq : a'.stage = a.stage
  intent_eq : a'.intent = a.intent
  settled : v = .ok true → a'.strategy ≠ genericStrategy
  same : v ≠ .ok true → a' = a

theorem SiteRecord.refl {v : Except Failure Bool} (hv : v ≠ .ok true) : SiteRecord a v a :=
  ⟨rfl, rfl, rfl, fun h => absurd h hv, fun _ => rfl⟩

theorem trySite_record (p : Patience) (c : Credentials) :
    Flow.Ensures (trySite p c) a (fun _ v a' => SiteRecord a v a') := by
  unfold trySite
  refine .bind_lift (siteSequence_domain p c) ?_ (fun _ _ _ => .refl nofun)
  intro t found hfound
  cases found with
  | none => exact .pure (.refl nofun)
  | some domain =>
    refine .bind_change (.pure ?_)
    exact ⟨rfl, rfl, rfl, fun _ => hfound domain rfl, fun h => absurd rfl h⟩

theorem earlySite_record (p : Patience) (c : Credentials) (siteFirst : Bool) :
    Flow.Ensures (earlySite p c siteFirst) a (fun _ v a' => SiteRecord a v a') := by
  unfold earlySite
  split
  · exact trySite_record p c
  · exact .pure (.refl nofun)

theorem lateSite_record (p : Patience) (c : Credentials) (intent : Intent) (siteTried : Bool) :
    Flow.Ensures (lateSite p c intent siteTried) a (fun _ v a' => SiteRecord a v a') := by
  unfold lateSite
  split
  · exact trySite_record p c
  · exact .pure (.refl nofun)

/-- A site is not tried a second time, nor for a signup. -/
theorem lateSite_skipped (p : Patience) (c : Credentials) {intent : Intent} {siteTried : Bool}
    (h : siteTried = true ∨ intent = .signup) : lateSite p c intent siteTried = pure false := by
  unfold lateSite
  rcases h with rfl | rfl
  · rfl
  · rw [Bool.and_comm]
    rfl

/-- Asking which comes first leaves the attempt as it is; when an intent is asked for, the site comes first
exactly for a login. -/
theorem siteComesFirst_record (requested : Option Intent) :
    Flow.Ensures (siteComesFirst requested) a (fun _ v a' => a' = a ∧
      ∀ first wanted, v = .ok first → requested = some wanted → (first = true ↔ wanted = .login)) := by
  unfold siteComesFirst
  split
  · refine .pure ⟨rfl, fun first wanted hfirst hwanted => ?_⟩
    cases hfirst
    cases hwanted
    simp
  · refine .pure ⟨rfl, fun first wanted hfirst hwanted => ?_⟩
    cases hfirst
    cases hwanted
    simp
  · exact .map (.lift (.of_forall _ (fun _ _ => ⟨rfl, fun _ _ _ h => nomatch h⟩)))

/-- Looking for a form passes stages and changes nothing else. -/
theorem reachForm_record (p : Patience) (intent : Intent) :
    Flow.Ensures (reachForm p intent) a (fun _ _ a' =>
      a'.intent = a.intent ∧ a'.strategy = a.strategy) := by
  unfold reachForm
  refine .bind_lift (.any _) ?_ (fun _ _ _ => ⟨rfl, rfl⟩)
  intro t here _
  split
  · exact .advance ⟨rfl, rfl⟩
  · refine .bind_advance (.bind_lift (.any _) ?_ (fun _ _ _ => ⟨rfl, rfl⟩))
    intro u viaLink _
    split
    · exact .advance ⟨rfl, rfl⟩
    · refine .bind_lift (.any _) ?_ (fun _ _ _ => ⟨rfl, rfl⟩)
      intro w viaPath _
      split
      · exact .advance ⟨rfl, rfl⟩
      · exact .fail ⟨rfl, rfl⟩

/-- What was asked for is kept: the intent of an attempt is the one that was requested, if one was. -/
def Attempt.Meets (a : Attempt) (requested : Option Intent) (intent : Intent) : Prop :=
  a.intent = some intent ∧ ∀ wanted, requested = some wanted → intent = wanted

/-- Detection sets the intent and keeps the strategy. -/
theorem detect_record (requested : Option Intent) :
    Flow.Ensures (detect requested) a (fun _ v a' => a'.strategy = a.strategy ∧
      ∀ intent address, v = .ok (intent, address) → a'.Meets requested intent) := by
  unfold detect
  refine .bind_advance (.bind (P := fun _ v a' => a'.strategy = a.strategy ∧ ∀ wanted intent,
    requested = some wanted → v = .ok intent → intent = wanted) ?_ ?_ (fun _ _ _ ha => ⟨ha.1, nofun⟩))
  · cases requested with
    | none => exact .lift (.of_forall _ (fun _ _ => ⟨rfl, nofun⟩))
    | some wanted =>
      refine .pure ⟨rfl, ?_⟩
      intro wanted' intent hwanted hintent
      cases hwanted
      cases hintent
      rfl
  · rintro t intent b ⟨hstrategy, hintent⟩
    refine .bind_change (.bind_advance (.bind_lift (.any _) ?_ (fun _ _ _ => ⟨hstrategy, nofun⟩)))
    intro u url _
    refine .pure ⟨hstrategy, ?_⟩
    intro intent' address hresult
    cases hresult
    exact ⟨rfl, fun wanted hwanted => hintent wanted intent hwanted rfl⟩

/-- Where an attempt stands when the fields are to be filled in: a known site has settled it, or the form
is there. A site that comes first when an intent is asked for is one for a login. -/
theorem approach_standing (p : Patience) (c : Credentials) (requested : Option Intent) :
    Flow.Ensures (approach p c requested) a (fun _ v a' =>
      (∀ start, v = .ok (.settled start) → a'.strategy ≠ genericStrategy) ∧
      (∀ intent address siteTried, v = .ok (.atForm intent address siteTried) →
        requested ≠ none → siteTried = true ∨ intent = .signup)) := by
  unfold approach
  refine .bind_lift (.any _) ?_ (fun _ _ _ => ⟨nofun, nofun⟩)
  intro t start _
  refine .bind (siteComesFirst_record requested) ?_ (fun _ _ _ _ => ⟨nofun, nofun⟩)
  rintro u first b ⟨-, hb⟩
  refine .bind (earlySite_record p c first) ?_ (fun _ _ _ _ => ⟨nofun, nofun⟩)
  intro w settled b' hsite
  split
  · rename_i hsettled
    refine .bind_change (.bind_advance (.bind_advance (.pure ⟨?_, nofun⟩)))
    exact fun _ _ => hsite.settled (by rw [hsettled])
  · refine .bind (reachForm_record p _) ?_ (fun _ _ _ _ => ⟨nofun, nofun⟩)
    intro x _ d _
    refine .bind (detect_record requested) ?_ (fun _ _ _ _ => ⟨nofun, nofun⟩)
    rintro y ⟨intent, address⟩ d' ⟨-, hmeets⟩
    refine .pure ⟨nofun, ?_⟩
    intro intent' address' siteTried h hrequested
    cases h
    obtain ⟨wanted, hwanted⟩ := Option.ne_none_iff_exists'.1 hrequested
    have hintent : intent = wanted := (hmeets intent address rfl).2 wanted hwanted
    have hfirst := hb _ wanted rfl hwanted
    cases wanted with
    | login => exact .inl (hfirst.2 rfl)
    | signup => exact .inr hintent

end BrowserScript.SignIn
