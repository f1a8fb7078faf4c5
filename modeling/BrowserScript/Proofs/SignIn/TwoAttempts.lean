/-
BrowserScript.Proofs.SignIn.TwoAttempts — two attempts that type different things.

All that an attempt does with its credentials is to type them into fields. So attempts with different
credentials go in step, as long as both have a full name to sign up with or neither has, and the fields into
which they type different texts hide them. Of the password this is known beforehand: `passwordField` lists
the fields that it is ever typed into.

* `inStep_composed`, `inStep_flow`: what is composed of questions that are not about secrets goes in step
  with itself.
* `resolve_gives`, `findFields_gives`: a field that was found is one of those that were looked for.
* `HiddenBy`: credentials that differ only where fields hide it.
* `inStep_signIn`: attempts with such credentials go in step.

Main statement: `authenticate_keeps_password`. Two attempts that differ in the password end alike, with the
same record, and make the same requests but for what is typed into password fields.
-/
import BrowserScript.Proofs.Browser.TwoRuns
import BrowserScript.Proofs.SignIn.KnownSite

namespace BrowserScript

open Browser

/-! ## §1 Composed scripts -/

section Composed

variable {hides : String → Bool} {α β : Type} {s t : Script α}

theorem inStep_look (timeout : Int) (selector : String) :
    Script.InStep hides Eq (Target.look timeout selector) (Target.look timeout selector) := by
  rw [Target.look_eq]
  refine .ask rfl ?_
  intro reply
  refine .bind (.onRefusal (.bind (.ofExcept reply) ?_) fun _ => .done rfl) ?_
  · rintro e _ rfl
    exact .done rfl
  · rintro found _ rfl
    cases found with
    | none => exact .done rfl
    | some e =>
      refine .bind (.onRefusal (.ofExcept _) fun _ => .done rfl) ?_
      rintro shown _ rfl
      exact .done rfl

/-- A script that asks about no secret goes in step with itself. -/
theorem inStep_composed (h : s.Composed Question.Public) : Script.InStep hides Eq s s := by
  induction h with
  | done a => exact .done rfl
  | fail _ => exact .fail _
  | query hq => exact .query hq.2
  | look timeout selector => exact inStep_look timeout selector
  | bind _ _ ihs ihf =>
    refine ihs.bind ?_
    rintro a _ rfl
    exact ihf a
  | onRefusal _ _ ihs ihh => exact ihs.onRefusal ihh
  | onTimeout _ _ hother ihs iht =>
    refine ihs.rescue ?_
    intro e
    by_cases htimeout : ∃ text, e = .timeout text
    · obtain ⟨text, rfl⟩ := htimeout
      exact iht text
    · rw [hother e (fun text htext => htimeout ⟨text, htext⟩)]
      exact .fail e

end Composed

/-! ## §2 Composed flows -/

namespace SignIn

variable {hides : String → Bool} {α β : Type}

/-- Flows in step on every attempt. -/
def Flow.InStep (hides : String → Bool) (x y : Flow α) : Prop :=
  ∀ a, Script.InStep hides Eq (Flow.on x a) (Flow.on y a)

theorem Flow.InStep.lift {s t : Script α} (h : Script.InStep hides Eq s t) :
    Flow.InStep hides (Flow.lift s) (Flow.lift t) := by
  intro a
  rw [on_lift, on_lift]
  refine h.attempt.bind ?_
  intro r r' hr
  rw [hr.eq]
  exact .done rfl

theorem Flow.InStep.bind {x y : Flow α} {f g : α → Flow β} (h : Flow.InStep hides x y)
    (hfg : ∀ v, Flow.InStep hides (f v) (g v)) : Flow.InStep hides (x >>= f) (y >>= g) := by
  intro a
  rw [on_bind, on_bind]
  refine (h a).bind ?_
  rintro ⟨v, a'⟩ _ rfl
  cases v with
  | ok v => exact hfg v a'
  | error e => exact .done rfl

/-- A flow that asks about no secret goes in step with itself. -/
theorem inStep_flow {x : Flow α} (h : x.Composed Question.Public) : Flow.InStep hides x x := by
  induction h with
  | pure v => exact fun a => .done rfl
  | fail fault => exact fun a => .done rfl
  | lift hs => exact .lift (inStep_composed hs)
  | change f => exact fun a => .done rfl
  | get => exact fun a => .done rfl
  | map g _ ih =>
    intro a
    rw [Flow.on_map]
    refine (ih a).bind ?_
    rintro p _ rfl
    exact .done rfl
  | bind _ _ ihx ihf => exact ihx.bind ihf

end SignIn

/-! ## §3 Fields that are found -/

theorem Target.resolveFrom_gives {timeout : Int} {accept : Element → Bool} {selectors known : List String}
    (hknown : ∀ s ∈ selectors, s ∈ known) {r : Resolution} (hr : r.selector = none) :
    (resolveFrom timeout accept r selectors).Gives (fun r' => ∀ s, r'.selector = some s → s ∈ known) := by
  induction selectors generalizing r with
  | nil => exact .done fun s hs => nomatch hr.symm.trans hs
  | cons selector rest ih =>
    have hrest : ∀ s ∈ rest, s ∈ known := fun s hs => hknown s (List.mem_cons_of_mem _ hs)
    rw [resolveFrom_cons]
    refine .bind_any ?_
    rintro (_ | ⟨e, shown⟩)
    · exact ih hrest hr
    · dsimp only
      split
      · exact ih hrest hr
      · split
        · exact ih hrest hr
        · refine .done ?_
          rintro s hs
          cases hs
          exact hknown selector List.mem_cons_self

/-- The selector that is taken is one of those that are tried. -/
theorem Target.resolve_gives (timeout : Int) (selectors : List String) (accept : Element → Bool) :
    (resolve timeout selectors accept).Gives (fun r => ∀ s, r.selector = some s → s ∈ selectors) :=
  resolveFrom_gives (fun _ hs => hs) rfl

namespace SignIn

variable {hides : String → Bool} (p : Patience) {c c' : Credentials}

theorem findField_gives (fields : List String) :
    (findField p fields).Gives (fun found => ∀ s, found = some s → s ∈ fields) :=
  .bind (Target.resolve_gives _ _ _) fun _ hr => .done hr

theorem needField_gives (fields : List String) (name : String) :
    (needField p fields name).Gives (· ∈ fields) := by
  refine .bind (findField_gives p fields) ?_
  intro found hfound
  cases found with
  | none => exact .fail _
  | some selector => exact .done (hfound selector rfl)

theorem confirmField_gives (password : String) (intent : Intent) :
    (confirmField p password intent).Gives (fun found => ∀ s, found = some s → s ∈ confirmFields) := by
  cases intent with
  | login => exact .done nofun
  | signup =>
    refine .bind (findField_gives p confirmFields) fun found hfound => .done ?_
    intro s hs
    split at hs
    · cases hs
    · exact hfound s hs

/-- Fields for the password among those that are meant for it. -/
structure Fields.Proper (f : Fields) : Prop where
  password : f.password ∈ passwordFields
  confirm : ∀ s, f.confirm = some s → s ∈ confirmFields

theorem findFields_gives (c : Credentials) (intent : Intent) :
    (findFields p c intent).Gives Fields.Proper :=
  .bind_any fun _ => .bind_any fun _ =>
    .bind (needField_gives p passwordFields "password") fun password hpassword =>
    .bind (confirmField_gives p password intent) fun _ hconfirm => .done ⟨hpassword, hconfirm⟩

/-! ## §4 Credentials -/

/-- Whether a field is one of those that a password may be typed into: fields for it, fields for it once
more, and those of known sites. -/
def passwordField (selector : String) : Bool :=
  passwordFields.contains selector || confirmFields.contains selector ||
    sites.any (fun site => site.steps.any (fun s => s.kind == .password && s.selector == selector))

theorem Fields.Proper.password_hidden {f : Fields} (h : f.Proper) : passwordField f.password = true := by
  simp [passwordField, h.password]

theorem Fields.Proper.confirm_hidden {f : Fields} (h : f.Proper) {s : String} (hs : f.confirm = some s) :
    passwordField s = true := by
  simp [passwordField, h.confirm s hs]

theorem step_hidden {site : Site} (hsite : site ∈ sites) {s : Step} (hs : s ∈ site.steps)
    (hkind : s.kind = .password) : passwordField s.selector = true := by
  have hstep : (s.kind == .password && s.selector == s.selector) = true := by
    rw [hkind, beq_self_eq_true, beq_self_eq_true]
    rfl
  have hany : sites.any (fun site => site.steps.any
      (fun t => t.kind == .password && t.selector == s.selector)) = true :=
    List.any_eq_true.2 ⟨site, hsite, List.any_eq_true.2 ⟨s, hs, hstep⟩⟩
  rw [passwordField, hany, Bool.or_true]

/-- Credentials of which both or none have a full name. -/
def Credentials.Alike (c c' : Credentials) : Prop := c.name?.isSome = c'.name?.isSome

theorem alike_of_empty_iff {username username' password password' name name' : String}
    (h : name = "" ↔ name' = "") :
    Credentials.Alike ⟨username, password, some name⟩ ⟨username', password', some name'⟩ := by
  unfold Credentials.Alike Credentials.name?
  by_cases hname : name = ""
  · simp [hname, h.1 hname]
  · have hname' : name' ≠ "" := fun hname' => hname (h.2 hname')
    simp [hname, hname']

/-- Credentials that differ at most in the password, or in anything where every field hides it. Fields for
passwords hide it. -/
structure Credentials.HiddenBy (hides : String → Bool) (c c' : Credentials) : Prop where
  alike : c.Alike c'
  others : (∀ selector, hides selector = true) ∨ c.username = c'.username ∧ c.fullName = c'.fullName
  password : ∀ selector, passwordField selector = true → hides selector = true

namespace Credentials.HiddenBy

theorem username (h : c.HiddenBy hides c') (selector : String) :
    hides selector = true ∨ c.username = c'.username :=
  h.others.imp (fun hall => hall selector) And.left

theorem name (h : c.HiddenBy hides c') (selector : String) :
    hides selector = true ∨ c.name?.getD "" = c'.name?.getD "" := by
  refine h.others.imp (fun hall => hall selector) ?_
  rintro ⟨-, hname⟩
  unfold Credentials.name?
  rw [hname]

end Credentials.HiddenBy

/-! ## §5 Attempts in step -/

theorem inStep_act (h : c.HiddenBy hides c') {step : Step}
    (hstep : step.kind = .password → passwordField step.selector = true) :
    Script.InStep hides Eq (step.act c) (step.act c') := by
  unfold Step.act
  split
  · exact .typed (h.username _)
  · rename_i hkind
    exact .typed (.inl (h.password _ (hstep hkind)))
  · exact .page (.click step.selector)
  · exact .done rfl
  · exact .fail _

theorem inStep_runSteps (h : c.HiddenBy hides c') (timeout : Int) {steps : List Step}
    (hsteps : ∀ step ∈ steps, step.kind = .password → passwordField step.selector = true) :
    Script.InStep hides Eq (runSteps c timeout steps) (runSteps c' timeout steps) := by
  induction steps with
  | nil => exact .done rfl
  | cons step rest ih =>
    refine .bind (.page (.waitVisible step.selector timeout)) fun _ _ _ => ?_
    refine .bind (inStep_act h (hsteps step List.mem_cons_self)) fun _ _ _ => ?_
    exact ih fun s hs => hsteps s (List.mem_cons_of_mem _ hs)

theorem inStep_siteSequence (h : c.HiddenBy hides c') :
    Script.InStep hides Eq (siteSequence p c) (siteSequence p c') := by
  refine .bind .url ?_
  rintro url _ rfl
  split
  · exact .fail _
  · exact .done rfl
  · rename_i site hsite
    have hsteps := inStep_runSteps h p.navigation fun s hs => step_hidden (siteFor_mem hsite) hs
    exact .onRefusal (.bind hsteps fun _ _ _ => .done rfl) fun _ => .done rfl

theorem inStep_trySite (h : c.HiddenBy hides c') :
    Flow.InStep hides (trySite p c) (trySite p c') := by
  refine .bind (.lift (inStep_siteSequence p h)) ?_
  intro found
  cases found with
  | none => exact inStep_flow (.pure _)
  | some domain => exact inStep_flow (.bind (.change _) fun _ => .pure _)

/-- The fields that are looked up depend on the credentials only through whether there is a full name. -/
theorem findFields_eq (h : c.Alike c') (intent : Intent) :
    findFields p c intent = findFields p c' intent := by
  have hname : nameField p c intent = nameField p c' intent := by
    cases intent with
    | login => rfl
    | signup =>
      unfold nameField
      unfold Credentials.Alike at h
      generalize c.name? = name, c'.name? = name' at h ⊢
      cases name <;> cases name' <;> first | rfl | cases h
  unfold findFields
  rw [hname]

theorem inStep_fillMaybe {selector : Option String} {value value' : String}
    (h : ∀ s, selector = some s → hides s = true ∨ value = value') :
    Script.InStep hides Eq (fillMaybe selector value) (fillMaybe selector value') := by
  cases selector with
  | none => exact .done rfl
  | some selector => exact .typed (h selector rfl)

theorem inStep_typeIn (h : c.HiddenBy hides c') {f : Fields} (hf : f.Proper) :
    Script.InStep hides Eq (typeIn c f) (typeIn c' f) := by
  have hpassword : hides f.password = true := h.password _ hf.password_hidden
  have hconfirm : ∀ s, f.confirm = some s → hides s = true := fun s hs =>
    h.password s (hf.confirm_hidden hs)
  exact .bind (.typed (h.username _)) fun _ _ _ =>
    .bind (inStep_fillMaybe fun s _ => h.name s) fun _ _ _ =>
    .bind (.typed (.inl hpassword)) fun _ _ _ => inStep_fillMaybe fun s hs => .inl (hconfirm s hs)

theorem inStep_fillForm (h : c.HiddenBy hides c') (intent : Intent) :
    Script.InStep hides Eq (fillForm p c intent) (fillForm p c' intent) := by
  have hfields : Script.InStep hides (fun f f' => f = f' ∧ f.Proper) (findFields p c intent)
      (findFields p c' intent) := by
    rw [findFields_eq p h.alike]
    exact (inStep_composed (composed_findFields p c' intent fun _ => trivial)).gives (findFields_gives p c' intent)
  refine hfields.bind ?_
  rintro f _ ⟨rfl, hf⟩
  exact inStep_typeIn h hf

theorem inStep_approach (h : c.HiddenBy hides c') (requested : Option Intent) :
    Flow.InStep hides (approach p c requested) (approach p c' requested) := by
  have hfirst := ((composed_siteComesFirst requested).widen fun _ hq => hq.1.toPublic).loose
  have hreach := ((composed_reachForm p (requested.getD .login)).widen fun _ hq => hq.1.toPublic).loose
  have hdetect := ((composed_detect requested).widen fun _ hq => hq.1.toPublic).loose
  refine .bind (inStep_flow (.lift (.query ⟨rfl, rfl⟩))) fun start =>
    .bind (inStep_flow hfirst) fun siteFirst => .bind ?_ fun settled => ?_
  · cases siteFirst with
    | true => exact inStep_trySite p h
    | false =>
      show Flow.InStep hides (pure false) (pure false)
      exact inStep_flow (.pure _)
  · cases settled with
    | true =>
      exact inStep_flow (.bind (.change _) fun _ => .bind (.advance _) fun _ =>
        .bind (.advance _) fun _ => .pure _)
    | false => exact inStep_flow (.bind hreach fun _ => .bind hdetect fun _ => .pure _)

theorem inStep_fillIn (h : c.HiddenBy hides c') (standing : Standing) :
    Flow.InStep hides (fillIn p c standing) (fillIn p c' standing) := by
  cases standing with
  | settled start => exact inStep_flow (.pure _)
  | atForm intent address siteTried =>
    refine .bind ?_ fun settled => ?_
    · unfold lateSite
      split
      · exact inStep_trySite p h
      · exact inStep_flow (.pure _)
    · cases settled with
      | true =>
        rw [if_pos rfl, if_pos rfl]
        exact inStep_flow (.pure _)
      | false => exact .bind (.lift (inStep_fillForm p h intent)) fun _ => inStep_flow (.pure _)

/-- Attempts with credentials that differ only where fields hide it go in step. -/
theorem inStep_signIn (h : c.HiddenBy hides c') (requested : Option Intent) :
    Flow.InStep hides (signIn p c requested) (signIn p c' requested) :=
  .bind (inStep_approach p h requested) fun standing =>
    .bind (inStep_fillIn p h standing) fun filled =>
      inStep_flow ((composed_finish p filled.1 filled.2).widen fun _ hq => hq.1.toPublic).loose

/-! ## §6 The password -/

/-- The end of an attempt, in which a failure becomes the last stage. -/
theorem inStep_authenticate (h : c.HiddenBy hides c') (requested : Option Intent) :
    Script.InStep hides Eq (authenticate p c requested) (authenticate p c' requested) := by
  refine (inStep_signIn p h requested { intent := requested }).bind ?_
  rintro ⟨result, a⟩ _ rfl
  cases result with
  | ok _ => exact .done rfl
  | error e => exact .done rfl

/-- An attempt resolves no reference to a secret. -/
theorem authenticate_asks (c : Credentials) (requested : Option Intent) :
    (authenticate p c requested).Asks (fun q => q.tellsSecret = false) := by
  have hflow := (composed_signIn p c requested).asks (fun _ hq => hq.2) (fun _ _ => rfl)
    { intent := requested }
  refine .bind hflow ?_
  rintro ⟨result, a⟩
  cases result with
  | ok _ => exact .done _
  | error e => exact .done _

theorem hiddenBy_passwordField (username : String) (fullName : Option String) (password password' : String) :
    Credentials.HiddenBy passwordField ⟨username, password, fullName⟩ ⟨username, password', fullName⟩ where
  alike := rfl
  others := .inr ⟨rfl, rfl⟩
  password _ h := h

/-- The password is typed into fields for passwords and shows nowhere else: with any two passwords an
attempt ends alike, in the same result or the same failure and with the same record, and makes the same
requests in the same order, but for what is typed into these fields. -/
theorem authenticate_keeps_password (m : Machine) (page : String) (requested : Option Intent)
    (username : String) (fullName : Option String) (password password' : String) :
    ((authenticate p ⟨username, password, fullName⟩ requested).run m page).1
        = ((authenticate p ⟨username, password', fullName⟩ requested).run m page).1 ∧
      ((authenticate p ⟨username, password, fullName⟩ requested).run m page).2.world.log.map
          (Entry.concealed passwordField)
        = ((authenticate p ⟨username, password', fullName⟩ requested).run m page).2.world.log.map
          (Entry.concealed passwordField) := by
  have hstep := inStep_authenticate p
    (hiddenBy_passwordField username fullName password password') requested
  have hrefs := (authenticate_asks p ⟨username, password, fullName⟩ requested).run m page
  obtain ⟨hends, hmachines⟩ := hstep.run (.refl m) page (.of_asks hrefs)
  exact ⟨hends.eq, hmachines.world.log⟩

end SignIn
end BrowserScript
