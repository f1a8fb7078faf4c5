/-
BrowserScript.Proofs.SignIn.FormFields — the fields of a form, all of them or none.

All fields of a form are looked up before anything is typed into one of them, so a form on which a field is
missing stays as it was.

* `Page.displays`: whether there is an element under a selector that can be seen. A search that has a result has
  come to the first selector of its list that the page displays (`run_resolve_ok`).
* `Failure.Foreign`: a failure that is not one of signing in. What is composed of such failures raises no others
  where none are in store (`Script.Composed.foreign`), so a failure of signing in can be traced to its place.
* `Fields.FirstOf`: the fields of a form, each the first one of its table. `Fields.entries` is what is typed into
  them.

Main statements: `fillForm_ok` and `fillForm_error`, the two ways in which a filling ends. The second one is about the
failures that signing in has of its own.
-/
import BrowserScript.Proofs.Settings.References
import BrowserScript.Proofs.Target.Findings
import BrowserScript.Proofs.Vocabulary.Raising

namespace BrowserScript

/-! ## §1 What a search comes to -/

/-- Whether a page has an element under a selector that can be seen. -/
def Browser.Page.displays (p : Browser.Page) (timeout : Int) (selector : String) : Bool :=
  match p.finding timeout selector with
  | .shown _ => true
  | _ => false

namespace Target

open Browser

variable {m m' : Machine} {page : String} {timeout : Int}

/-- By induction on the selectors: one that is passed over is not displayed, and none of them changes the page. -/
theorem run_resolveFrom_ok {p : Page} {selectors : List String} {r r' : Resolution} (hp : m.world.page page = p)
    (hr : r.selector = none)
    (h : (resolveFrom timeout (fun _ => true) r selectors).run m page = (.ok r', m')) :
    r'.selector = selectors.find? (p.displays timeout) := by
  induction selectors generalizing m r with
  | nil =>
    cases h
    exact hr
  | cons selector rest ih =>
    rw [resolveFrom_cons] at h
    obtain ⟨found, m₁, hlook, hrest⟩ := Script.run_bind_eq_ok.1 h
    rw [run_look_eq] at hlook
    obtain ⟨htold, rfl⟩ := Prod.mk.inj hlook
    have hlooked := looked_of_told htold
    have hthere : (m.probed page timeout [selector]).world.page page = p := hp
    rw [hp] at hlooked
    rw [List.find?_cons, Page.displays]
    cases hfinding : p.finding timeout selector with
    | absent =>
      rw [hfinding] at hlooked
      cases hlooked
      exact ih (r := r.next) hthere hr hrest
    | hidden e =>
      rw [hfinding] at hlooked
      cases hlooked
      exact ih (r := { r.next with hidden := r.next.hidden ++ [selector] }) hthere hr hrest
    | shown e =>
      rw [hfinding] at hlooked
      cases hlooked
      cases hrest
      rfl
    | lost text =>
      rw [hfinding] at hlooked
      cases hlooked

/-- A search that has a result has come to the first selector that the page displays, if there is one. -/
theorem run_resolve_ok {selectors : List String} {r : Resolution}
    (h : (resolve timeout selectors).run m page = (.ok r, m')) :
    r.selector = selectors.find? ((m.world.page page).displays timeout) :=
  run_resolveFrom_ok rfl rfl h

end Target

/-! ## §2 Failures of signing in -/

/-- A failure that is not one of signing in. -/
abbrev Failure.Foreign (e : Failure) : Prop := ∀ fault, e ≠ .signIn fault

/-- A description names no failure of signing in, so a browser that is described has none in store. -/
theorem Browser.Description.worldOf_foreign (v : Value) : (worldOf v).FailsOnly Failure.Foreign := by
  refine worldOf_failsOnly (fun w => ?_) v
  obtain ⟨text, h | h | h | ⟨ofValue, h⟩⟩ := failureOf_cases w <;> rw [h] <;> exact fun _ => nofun

theorem Failure.usual_foreign : Browser.Usual Failure.Foreign := ⟨fun _ => nofun, fun _ => nofun⟩

theorem Failure.secretsFail_foreign : Browser.SecretsFail Failure.Foreign := by
  intro disk projectDir secrets parameter e he
  obtain ⟨fault, rfl⟩ | ⟨fault, rfl⟩ := resolveSecret_error he <;> nofun

namespace Browser

/-- What a question types in, and where. -/
def Question.typed? : Question → Option (String × String)
  | .page (.fill selector value) => some (selector, value)
  | _ => none

theorem Question.typed?_eq_none {q : Question} (h : q.fills = false) : q.typed? = none := by
  unfold typed?
  split
  · cases h
  · rfl

variable {α : Type} {K : Question → Prop} {s : Script α} {m m' : Machine} {page : String}

/-- Where nothing that is in store is a failure of signing in, a script fails with one only where it raises it
itself. -/
theorem Script.Composed.foreign (h : s.Composed K Failure.Foreign) (hstore : m.world.FailsOnly Failure.Foreign)
    {e : Failure} (hrun : s.run m page = (.error e, m')) : e.Foreign :=
  (raises_composed (fun _ => nofun) h).of_run Failure.usual_foreign Failure.secretsFail_foreign hstore hrun

/-- Looking at selectors leaves the page as it is. -/
theorem Script.Composed.page_eq {F : Failure → Prop} (h : s.Composed (fun _ => False) F)
    {r : Except Failure α} (hrun : s.run m page = (r, m')) (name : String) :
    m'.world.page name = m.world.page name := by
  have hreads : s.Asks (·.reads = true) := h.asks (fun _ hq => hq.elim) (fun _ _ => rfl)
  obtain ⟨log, hlog⟩ := Script.run_reads (hreads.run m page)
  rw [hrun] at hlog
  change m' = _ at hlog
  rw [hlog]
  rfl

end Browser

namespace SignIn

open Browser
open Failure (Foreign)

/-! ## §3 The fields of a form -/

/-- The fields that a form must have, each with its table. -/
def requiredFields : List (String × List String) := [("username", usernameFields), ("password", passwordFields)]

/-- The fields of a form, each the first one of its table that is displayed. The name is asked for only where there
is one to sign up with, and the password once more only where signing up has a field of its own for it. -/
structure Fields.FirstOf (f : Fields) (displays : String → Bool) (c : Credentials) (intent : Intent) : Prop where
  username : usernameFields.find? displays = some f.username
  name : f.name = if intent = .signup ∧ c.name?.isSome then fullNameFields.find? displays else none
  password : passwordFields.find? displays = some f.password
  confirm : f.confirm =
    if intent = .signup then (confirmFields.find? displays).filter (· ≠ f.password) else none

section Searching

variable {p : Patience} {c : Credentials} {intent : Intent} {m m' : Machine} {page : String}

theorem findField_ok {fields : List String} {found : Option String}
    (h : (findField p fields).run m page = (.ok found, m')) :
    found = fields.find? ((m.world.page page).displays p.probe) := by
  obtain ⟨r, m₁, hresolve, hend⟩ := Script.run_bind_eq_ok.1 h
  cases hend
  exact Target.run_resolve_ok hresolve

theorem needField_ok {fields : List String} {name selector : String}
    (h : (needField p fields name).run m page = (.ok selector, m')) :
    fields.find? ((m.world.page page).displays p.probe) = some selector := by
  obtain ⟨found, m₁, hfind, hend⟩ := Script.run_bind_eq_ok.1 h
  rw [← findField_ok hfind]
  cases found with
  | none => cases hend
  | some selector' =>
    cases hend
    rfl

theorem needField_error {fields : List String} {name : String} {fault : SignInFault}
    (hstore : m.world.FailsOnly Foreign)
    (h : (needField p fields name).run m page = (.error (.signIn fault), m')) :
    fault = .noField name ∧ fields.find? ((m.world.page page).displays p.probe) = none := by
  have hsearch := composed_findField (K := fun _ => False) (F := Foreign) p fields
  rcases Script.run_bind_eq_error.1 h with hfind | ⟨found, m₁, hfind, hend⟩
  · exact absurd rfl (hsearch.foreign hstore hfind fault)
  · rw [← findField_ok hfind]
    cases found with
    | none =>
      cases hend
      exact ⟨rfl, rfl⟩
    | some selector => cases hend

theorem nameField_ok {found : Option String} (h : (nameField p c intent).run m page = (.ok found, m')) :
    found = if intent = .signup ∧ c.name?.isSome then
      fullNameFields.find? ((m.world.page page).displays p.probe) else none := by
  cases intent with
  | login =>
    cases h
    rfl
  | signup =>
    unfold nameField at h
    cases hname : c.name? with
    | none =>
      rw [hname] at h
      cases h
      rfl
    | some name =>
      rw [hname] at h
      rw [findField_ok h]
      rfl

theorem confirmField_ok {password : String} {found : Option String}
    (h : (confirmField p password intent).run m page = (.ok found, m')) :
    found = if intent = .signup then
      (confirmFields.find? ((m.world.page page).displays p.probe)).filter (· ≠ password) else none := by
  cases intent with
  | login =>
    cases h
    rfl
  | signup =>
    obtain ⟨confirm, m₁, hfind, hend⟩ := Script.run_bind_eq_ok.1 h
    rw [← findField_ok hfind]
    cases hend
    cases confirm with
    | none => rfl
    | some selector => by_cases hsame : selector = password <;> simp [hsame, Option.filter]

/-- Fields that were all found are the first ones of their tables. -/
theorem findFields_ok {f : Fields} (h : (findFields p c intent).run m page = (.ok f, m')) :
    f.FirstOf ((m.world.page page).displays p.probe) c intent := by
  obtain ⟨username, m₁, husername, h⟩ := Script.run_bind_eq_ok.1 h
  obtain ⟨name, m₂, hname, h⟩ := Script.run_bind_eq_ok.1 h
  obtain ⟨password, m₃, hpassword, h⟩ := Script.run_bind_eq_ok.1 h
  obtain ⟨confirm, m₄, hconfirm, h⟩ := Script.run_bind_eq_ok.1 h
  cases h
  have hpage₁ := (composed_needField (F := fun _ => True) p _ trivial).page_eq husername page
  have hpage₂ := (composed_nameField (F := fun _ => True) p c intent).page_eq hname page
  have hpage₃ := (composed_needField (F := fun _ => True) p _ trivial).page_eq hpassword page
  have hname := nameField_ok hname
  have hpassword := needField_ok hpassword
  have hconfirm := confirmField_ok hconfirm
  rw [hpage₃, hpage₂, hpage₁] at hconfirm
  rw [hpage₂, hpage₁] at hpassword
  rw [hpage₁] at hname
  exact ⟨needField_ok husername, hname, hpassword, hconfirm⟩

/-- A search for fields that fails of itself lacks one of those that the form must have. -/
theorem findFields_error {fault : SignInFault} (hstore : m.world.FailsOnly Foreign)
    (h : (findFields p c intent).run m page = (.error (.signIn fault), m')) :
    ∃ field ∈ requiredFields, fault = .noField field.1 ∧
      field.2.find? ((m.world.page page).displays p.probe) = none := by
  rcases Script.run_bind_eq_error.1 h with husername | ⟨username, m₁, husername, h⟩
  · exact ⟨_, List.mem_cons_self, needField_error hstore husername⟩
  have hpage₁ := (composed_needField (F := fun _ => True) p _ trivial).page_eq husername page
  have hstore₁ := Script.run_failsOnly hstore husername
  rcases Script.run_bind_eq_error.1 h with hname | ⟨name, m₂, hname, h⟩
  · exact absurd rfl ((composed_nameField (K := fun _ => False) p c intent).foreign hstore₁ hname fault)
  have hpage₂ := (composed_nameField (F := fun _ => True) p c intent).page_eq hname page
  have hstore₂ := Script.run_failsOnly hstore₁ hname
  rcases Script.run_bind_eq_error.1 h with hpassword | ⟨password, m₃, hpassword, h⟩
  · obtain ⟨hfault, hnone⟩ := needField_error hstore₂ hpassword
    rw [hpage₂, hpage₁] at hnone
    exact ⟨_, List.mem_cons_of_mem _ List.mem_cons_self, hfault, hnone⟩
  have hstore₃ := Script.run_failsOnly hstore₂ hpassword
  rcases Script.run_bind_eq_error.1 h with hconfirm | ⟨confirm, m₄, hconfirm, h⟩
  · exact absurd rfl ((composed_confirmField (K := fun _ => False) p password intent).foreign hstore₃ hconfirm fault)
  · cases h

end Searching

/-! ## §4 Filling in -/

/-- The texts that are typed in, each with its field. -/
def typed (t : List Exchange) : List (String × String) := t.filterMap (·.question.typed?)

@[simp] theorem typed_append (t u : List Exchange) : typed (t ++ u) = typed t ++ typed u := List.filterMap_append

theorem typed_eq_nil {t : List Exchange} (h : ∀ x ∈ t, x.question.fills = false) : typed t = [] :=
  List.filterMap_eq_nil_iff.2 fun x hx => Question.typed?_eq_none (h x hx)

/-- What is typed into the fields of a form, in this order: the user, the full name, the password, and the password
once more. -/
def Fields.entries (f : Fields) (c : Credentials) : List (String × String) :=
  (f.username, c.username) :: (f.name.toList.map (·, c.name?.getD "") ++
    (f.password, c.password) :: f.confirm.toList.map (·, c.password))

/-- A script that has typed in some entries once it has a result. -/
def Types {α : Type} (s : Script α) (entries : List (String × String)) : Prop :=
  s.Ensures (fun t r => ∀ a, r = .ok a → typed t = entries)

namespace Types

variable {α β : Type} {s : Script α}

theorem bind {f : α → Script β} {entries more : List (String × String)} (hs : Types s entries)
    (hf : ∀ a, Types (f a) more) : Types (s >>= f) (entries ++ more) := by
  refine Script.Ensures.bind hs ?_ (fun _ _ _ => nofun)
  intro t a ht
  refine (hf a).mono ?_
  intro u r hu b hb
  rw [typed_append, ht a rfl, hu b hb]

theorem fill (selector value : String) : Types (Script.page (.fill selector value)) [(selector, value)] :=
  Script.Ensures.query fun _ _ _ => rfl

theorem fillMaybe (selector : Option String) (value : String) :
    Types (fillMaybe selector value) (selector.toList.map (·, value)) := by
  cases selector with
  | none => exact fun _ _ => rfl
  | some selector => exact fill selector value

end Types

theorem typeIn_types (c : Credentials) (f : Fields) : Types (typeIn c f) (f.entries c) :=
  .bind (.fill _ _) fun _ => .bind (.fillMaybe _ _) fun _ => .bind (.fill _ _) fun _ => .fillMaybe _ _

section Filling

variable {p : Patience} {c : Credentials} {intent : Intent} {m m' : Machine} {page : String}

/-- The fields are only looked for. -/
theorem findFields_idle (p : Patience) (c : Credentials) (intent : Intent) :
    (findFields p c intent).Asks (·.enters = false) :=
  (composed_findFields (K := fun _ => False) (F := fun _ => True) p c intent fun _ => trivial).asks
    (fun _ hq => hq.elim) (fun _ _ => rfl)

/-- A form that has been filled in had all its fields, and these are the ones that were typed into. -/
theorem fillForm_ok (h : (fillForm p c intent).run m page = (.ok (), m')) :
    ∃ f : Fields, f.FirstOf ((m.world.page page).displays p.probe) c intent ∧
      typed ((fillForm p c intent).transcript m page) = f.entries c := by
  obtain ⟨f, m₁, hfind, htype⟩ := Script.run_bind_eq_ok.1 h
  have hquiet : typed ((findFields p c intent).transcript m page) = [] :=
    typed_eq_nil fun x hx => Question.fills_of_not_enters ((findFields_idle p c intent).run m page x hx)
  have htyped := (typeIn_types c f).run m₁ page () (by rw [htype])
  refine ⟨f, findFields_ok hfind, ?_⟩
  rw [fillForm, Script.transcript_bind, hfind, typed_append, hquiet, htyped, List.nil_append]

/-- A filling that fails of itself has found that the form lacks a field, and nothing has been entered. -/
theorem fillForm_error {fault : SignInFault} (hstore : m.world.FailsOnly Foreign)
    (h : (fillForm p c intent).run m page = (.error (.signIn fault), m')) :
    (∃ field ∈ requiredFields, fault = .noField field.1 ∧
      field.2.find? ((m.world.page page).displays p.probe) = none) ∧
    ∀ x ∈ (fillForm p c intent).transcript m page, x.question.enters = false := by
  rcases Script.run_bind_eq_error.1 h with hfind | ⟨f, m₁, hfind, htype⟩
  · refine ⟨findFields_error hstore hfind, ?_⟩
    rw [fillForm, Script.transcript_bind, hfind, List.append_nil]
    exact (findFields_idle p c intent).run m page
  · have htyping : (typeIn c f).Composed (fun _ => True) Foreign := composed_typeIn (fun _ _ => trivial) c f
    exact absurd rfl (htyping.foreign (Script.run_failsOnly hstore hfind) htype fault)

end Filling

end SignIn
end BrowserScript
