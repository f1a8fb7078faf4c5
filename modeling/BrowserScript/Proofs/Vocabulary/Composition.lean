/-
BrowserScript.Proofs.Vocabulary.Composition — what the actions are made of.

Every action is put together in a few ways only: questions one after the other, looks at selectors,
refusals that are handled, and waiting that may run out of time. `Script.Composed K F` and
`Flow.Composed K F` say so of a script and of a flow, where `K` tells which questions are asked on their own
and `F` which failures are raised, any failure if nothing is said. What holds of every way of composition
then holds of every action, by induction on the composition and without a second look at the actions.

* `Target.look` is the only place where an element is looked for: whether it can be seen is asked at once.
* The parts of signing in (`composed_hasAuthForm`, `composed_siteSequence`, `composed_fillForm` and so on) are composed
  for every `K` that has the questions which they ask themselves.
* `composed_signIn`: signing in resolves no reference to a secret, and of itself it fails with accidents only.
  Apart from the sequence of a known site it waits for no element.
* `composed_builtIn`: every built-in action is composed in this way; an action for signing in is so apart
  from its attempt (`signInAs_eq`).

`Permits F params count` and `PermitsAll F params count` are what an action asks of `F`. Anything permits
everything; mishaps permit what an action raises that declines nothing; and where `count` parameters are given,
the failures permit it for which no parameter is missing.
-/
import BrowserScript.Proofs.Instruction.Registration
import BrowserScript.Proofs.SignIn.KnownSite
import BrowserScript.Proofs.Vocabulary.Faults
import BrowserScript.Vocabulary.BuiltIn

namespace BrowserScript

open Browser

/-! ## §1 Looking at a selector -/

namespace Target

/-- One selector tried: its element, if there is one, and whether that can be seen. -/
def look (timeout : Int) (selector : String) : Script (Option (Element × Bool)) := do
  match ← probe timeout selector with
  | none => pure none
  | some e => do
    let shown ← isShown e
    pure (some (e, shown))

theorem probe_eq (timeout : Int) (selector : String) :
    probe timeout selector
      = .ask (.page (.probe selector timeout)) fun reply =>
          (some <$> Script.ofExcept reply).onRefusal (fun _ => pure none) := rfl

/-- A look is one request: the first handler sees its answer, the second that of the element. -/
theorem look_eq (timeout : Int) (selector : String) :
    look timeout selector
      = .ask (.page (.probe selector timeout)) fun reply =>
          (some <$> Script.ofExcept reply).onRefusal (fun _ => pure none) >>= fun
            | none => pure none
            | some e => isShown e >>= fun shown => pure (some (e, shown)) := by
  rw [look, probe_eq, Script.bind_ask]
  congr 1
  funext reply
  congr 1
  funext found
  cases found <;> rfl

/-- Trying selectors is one look after the other. -/
theorem resolveFrom_cons (timeout : Int) (accept : Element → Bool) (r : Resolution)
    (selector : String) (rest : List String) :
    resolveFrom timeout accept r (selector :: rest)
      = look timeout selector >>= fun
        | none => resolveFrom timeout accept r.next rest
        | some (e, shown) =>
          if !shown then
            resolveFrom timeout accept { r.next with hidden := r.next.hidden ++ [selector] } rest
          else if !accept e then
            resolveFrom timeout accept { r.next with rejected := r.next.rejected ++ [selector] } rest
          else pure { r.next with selector := some selector } := by
  rw [resolveFrom, look, Script.bind_assoc]
  congr 1
  funext found
  cases found with
  | none => rfl
  | some e =>
    dsimp only
    rw [Script.bind_assoc]
    rfl

end Target

/-! ## §2 Composed scripts -/

/-- Whether an action declines what it was given: a target that is not found, a reference without a value, a
file that is not there, or a parameter that it cannot use. -/
def Failure.declines : Failure → Bool
  | .targetNotFound .. | .settings _ | .input _ | .missingUpload _ => true
  | _ => false

/-- A failure with which nothing is declined. -/
abbrev Failure.Mishap (e : Failure) : Prop := e.declines = false

/-- A mishap for which no parameter is missing. -/
abbrev Failure.Accident (e : Failure) : Prop := e.Mishap ∧ e.Supplied

namespace Browser

/-- Whether a question looks for an element. -/
def Question.looks : Question → Bool
  | .page (.probe ..) => true
  | _ => false

/-- Whether a question is about a secret. -/
def Question.tellsSecret : Question → Bool
  | .secret _ => true
  | _ => false

/-- Whether a question waits until an element can be seen. -/
def Question.awaits : Question → Bool
  | .page (.waitVisible ..) => true
  | _ => false

/-- A question that can be asked on its own. -/
def Question.Direct (q : Question) : Prop := q.looks = false

/-- A question that can be asked on its own and is not about a secret. -/
def Question.Public (q : Question) : Prop := q.looks = false ∧ q.tellsSecret = false

/-- A public question that waits for no element. -/
def Question.Prompt (q : Question) : Prop := q.looks = false ∧ q.tellsSecret = false ∧ q.awaits = false

theorem Question.Prompt.toPublic {q : Question} (h : q.Prompt) : q.Public := ⟨h.1, h.2.1⟩

/-- Whether a question types something in. -/
def Question.fills : Question → Bool
  | .page (.fill ..) => true
  | _ => false

/-- Whether a question types something in or presses a key in a field. -/
def Question.enters : Question → Bool
  | .page (.fill ..) | .page (.press ..) => true
  | _ => false

theorem Question.fills_of_not_enters {q : Question} (h : q.enters = false) : q.fills = false := by
  unfold fills
  split
  · cases h
  · rfl

/-- A prompt question that types nothing in. -/
def Question.Typeless (q : Question) : Prop := q.Prompt ∧ q.fills = false

/-- A prompt question that neither types anything in nor presses a key in a field. -/
def Question.Idle (q : Question) : Prop := q.Prompt ∧ q.enters = false

/-- Scripts put together from questions of some kinds, from looks at selectors and from failures of a kind. -/
inductive Script.Composed (K : Question → Prop) (F : Failure → Prop := fun _ => True) :
    {α : Type} → Script α → Prop
  | done {α : Type} (a : α) : Composed K F (.done a)
  | fail {α : Type} {e : Failure} (he : F e) : Composed K F (.fail e : Script α)
  | query {q : Question} (hq : K q) : Composed K F (Script.query q)
  | look (timeout : Int) (selector : String) : Composed K F (Target.look timeout selector)
  | bind {α β : Type} {s : Script α} {f : α → Script β} (hs : Composed K F s)
      (hf : ∀ a, Composed K F (f a)) : Composed K F (s >>= f)
  | onRefusal {α : Type} {s : Script α} {handle : Failure → Script α} (hs : Composed K F s)
      (hh : ∀ e, Composed K F (handle e)) : Composed K F (s.onRefusal handle)
  | onTimeout {α : Type} {s : Script α} {handle : Failure → Script α} (hs : Composed K F s)
      (htimeout : ∀ text, Composed K F (handle (.timeout text)))
      (hother : ∀ e, (∀ text, e ≠ .timeout text) → handle e = .fail e) :
      Composed K F (s.rescue handle)

namespace Script.Composed

variable {α β : Type} {K L : Question → Prop} {F G : Failure → Prop} {s : Script α}

theorem mono (h : s.Composed K F) (hKL : ∀ q, K q → L q) (hFG : ∀ e, F e → G e) : s.Composed L G := by
  induction h with
  | done a => exact .done a
  | fail he => exact .fail (hFG _ he)
  | query hq => exact .query (hKL _ hq)
  | look timeout selector => exact .look timeout selector
  | bind _ _ ihs ihf => exact .bind ihs ihf
  | onRefusal _ _ ihs ihh => exact .onRefusal ihs ihh
  | onTimeout _ _ hother ihs iht => exact .onTimeout ihs iht hother

/-- More questions are allowed. -/
theorem widen (h : s.Composed K F) (hKL : ∀ q, K q → L q) : s.Composed L F := h.mono hKL (fun _ he => he)

/-- Prompt questions are public ones. -/
theorem toPublic (h : s.Composed Question.Prompt F) : s.Composed Question.Public F :=
  h.widen fun _ hq => hq.toPublic

/-- A script of which nothing is said about its failures. -/
theorem loose (h : s.Composed K F) : s.Composed K := h.mono (fun _ hq => hq) (fun _ _ => trivial)

theorem map (h : s.Composed K F) (f : α → β) : (f <$> s).Composed K F := .bind h (fun _ => .done _)

theorem ofExcept (r : Except Failure α) (hr : ∀ e, r = .error e → F e) :
    (Script.ofExcept r).Composed K F := by
  cases r with
  | ok a => exact .done a
  | error e => exact .fail (hr e rfl)

/-- A composed script asks questions of its kinds and looks for elements, and nothing else. -/
theorem asks (h : s.Composed K F) (hKL : ∀ q, K q → L q)
    (hprobe : ∀ selector timeout, L (.page (.probe selector timeout))) : s.Asks L := by
  induction h with
  | done a => exact .done a
  | fail _ => exact .fail _
  | query hq => exact .query (hKL _ hq)
  | look timeout selector =>
    have hfound : (Target.probe timeout selector).Asks L :=
      .onRefusal (.bind (.query (hprobe selector timeout)) fun _ => .done _) fun _ => .done _
    refine .bind hfound ?_
    intro found
    cases found with
    | none => exact .done _
    | some e => exact .bind (.onRefusal (.ofExcept _) fun _ => .done _) fun _ => .done _
  | bind _ _ ihs ihf => exact .bind ihs ihf
  | onRefusal _ _ ihs ihh => exact .onRefusal ihs ihh
  | onTimeout _ _ hother ihs iht =>
    refine .rescue ihs ?_
    intro e
    by_cases htimeout : ∃ text, e = .timeout text
    · obtain ⟨text, rfl⟩ := htimeout
      exact iht text
    · rw [hother e (fun text htext => htimeout ⟨text, htext⟩)]
      exact .fail e

/-- Where looking for elements is of the kind, too, the script asks questions of the kind only. -/
theorem toAsks (h : s.Composed K F) (hprobe : ∀ selector timeout, K (.page (.probe selector timeout))) :
    s.Asks K :=
  h.asks (fun _ hq => hq) hprobe

end Script.Composed
end Browser

/-! ## §3 Composed flows -/

namespace SignIn

/-- Flows put together from composed scripts. -/
inductive Flow.Composed (K : Question → Prop) (F : Failure → Prop := fun _ => True) :
    {α : Type} → Flow α → Prop
  | pure {α : Type} (v : α) : Composed K F (Pure.pure v : Flow α)
  | fail {α : Type} (fault : SignInFault) : Composed K F (Flow.fail fault : Flow α)
  | lift {α : Type} {s : Script α} (hs : s.Composed K F) : Composed K F (Flow.lift s)
  | change (f : Attempt → Attempt) : Composed K F (modify f : Flow Unit)
  | get : Composed K F (MonadState.get : Flow Attempt)
  | map {α β : Type} {x : Flow α} (g : α → β) (hx : Composed K F x) : Composed K F (g <$> x)
  | bind {α β : Type} {x : Flow α} {f : α → Flow β} (hx : Composed K F x)
      (hf : ∀ v, Composed K F (f v)) : Composed K F (x >>= f)

namespace Flow.Composed

variable {α : Type} {K L : Question → Prop} {F G : Failure → Prop} {x : Flow α}

theorem mono (h : x.Composed K F) (hKL : ∀ q, K q → L q) (hFG : ∀ e, F e → G e) : x.Composed L G := by
  induction h with
  | pure v => exact .pure v
  | fail fault => exact .fail fault
  | lift hs => exact .lift (hs.mono hKL hFG)
  | change f => exact .change f
  | get => exact .get
  | map g _ ih => exact .map g ih
  | bind _ _ ihx ihf => exact .bind ihx ihf

/-- More questions are allowed. -/
theorem widen (h : x.Composed K F) (hKL : ∀ q, K q → L q) : x.Composed L F := h.mono hKL (fun _ he => he)

theorem toPublic (h : x.Composed Question.Prompt F) : x.Composed Question.Public F :=
  h.widen fun _ hq => hq.toPublic

theorem loose (h : x.Composed K F) : x.Composed K := h.mono (fun _ hq => hq) (fun _ _ => trivial)

theorem advance (stage : Stage) : (Flow.advance stage).Composed K F := .change _

theorem asks (h : x.Composed K F) (hKL : ∀ q, K q → L q)
    (hprobe : ∀ selector timeout, L (.page (.probe selector timeout))) (a : Attempt) :
    (Flow.on x a).Asks L := by
  induction h generalizing a with
  | pure v => exact .done _
  | fail fault => exact .done _
  | lift hs => exact .bind (.attempt (hs.asks hKL hprobe)) fun _ => .done _
  | change f => exact .done _
  | get => exact .done _
  | map g _ ih =>
    rw [Flow.on_map]
    exact .bind (ih a) fun _ => .done _
  | bind _ _ ihx ihf =>
    rw [Flow.on_bind]
    refine .bind (ihx a) ?_
    rintro ⟨v, a'⟩
    cases v with
    | ok v => exact ihf v a'
    | error e => exact .done _

end Flow.Composed
end SignIn

/-! ## §4 Resolving -/

namespace Target

variable {K : Question → Prop} {F : Failure → Prop}

theorem composed_resolveFrom (timeout : Int) (accept : Element → Bool)
    (r : Resolution) (selectors : List String) :
    (resolveFrom timeout accept r selectors).Composed K F := by
  induction selectors generalizing r with
  | nil => exact .done r
  | cons selector rest ih =>
    rw [resolveFrom_cons]
    refine .bind (.look timeout selector) ?_
    rintro (_ | ⟨e, shown⟩)
    · exact ih _
    · dsimp only
      split
      · exact ih _
      · split
        · exact ih _
        · exact .done _

theorem composed_resolve (timeout : Int) (selectors : List String)
    (accept : Element → Bool) : (resolve timeout selectors accept).Composed K F :=
  composed_resolveFrom timeout accept .start selectors

theorem composed_resolveTarget (timeout : Int) (description : String) (groups : Option (List String))
    (hmissed : ∀ d tried hidden, F (.targetNotFound d tried hidden)) :
    (resolveTarget timeout description groups).Composed K F := by
  refine .bind (composed_resolve timeout _ _) ?_
  intro r
  split
  · exact .done _
  · exact .fail (hmissed _ _ _)

end Target

/-! ## §5 Signing in -/

namespace SignIn

open Question (Public Prompt Typeless Idle)
open Failure (Accident)

section Parts

variable {K : Question → Prop} {p : Patience}

theorem composed_settle (hload : K (.page (.waitForLoad .contentLoaded p.submit))) :
    (settle p).Composed K Accident := by
  refine .onTimeout (.query hload) (fun _ => .done _) ?_
  intro e he
  cases e with
  | timeout text => exact absurd rfl (he text)
  | _ => rfl

theorem composed_waitForNavigation {before : String} (hleft : K (.page (.waitForUrlChange before p.submit)))
    (hload : K (.page (.waitForLoad .contentLoaded p.submit))) :
    (waitForNavigation p before).Composed K Accident := by
  refine .bind (.onTimeout (.bind (.query hleft) (fun _ => .done _)) (fun _ => .done _) ?_) ?_
  · intro e he
    cases e with
    | timeout text => exact absurd rfl (he text)
    | _ => rfl
  · intro left
    cases left with
    | false => exact .done _
    | true => exact .bind (composed_settle hload) (fun _ => .done _)

theorem composed_hasAuthForm (hforms : K (.page .forms)) : hasAuthForm.Composed K Accident := by
  refine .bind (.onRefusal (.map (.query hforms) some) (fun _ => .done _)) ?_
  intro forms
  cases forms with
  | none => exact .done _
  | some forms =>
    have hfound : FailsElsewhere (itemsOf forms >>= anyAuthForm) :=
      (failsElsewhere_itemsOf forms).bind failsElsewhere_anyAuthForm
    dsimp only
    split
    · exact .done _
    · rename_i e he
      exact .fail ⟨rfl, hfound e he⟩

theorem composed_inferIntent (hsignals : K (.page .signals)) : inferIntent.Composed K Accident := by
  refine .bind (.query hsignals) ?_
  intro signals
  split
  · exact .done _
  · split
    · exact .done _
    · exact .fail ⟨rfl, rfl⟩

theorem composed_clickLink (hclick : ∀ selector, K (.page (.click selector)))
    (hload : K (.page (.waitForLoad .contentLoaded p.submit))) (intent : Intent) :
    (clickLink p intent).Composed K Accident := by
  refine .bind (Target.composed_resolve _ _ _) ?_
  intro r
  split
  · exact .done _
  · exact .bind (.query (hclick _)) (fun _ => .bind (composed_settle hload) (fun _ => .done _))

theorem composed_visitPaths (hforms : K (.page .forms)) (hvisit : ∀ url, K (.page (.goto url p.navigation)))
    (urls : List String) : (visitPaths p urls).Composed K Accident := by
  induction urls with
  | nil => exact .done _
  | cons url rest ih =>
    refine .bind (.onRefusal (.bind (.query (hvisit url)) (fun _ => .done _)) (fun _ => .done _)) ?_
    intro visited
    cases visited with
    | false => exact ih
    | true =>
      refine .bind (composed_hasAuthForm hforms) ?_
      intro found
      cases found with
      | false => exact ih
      | true => exact .done _

theorem composed_probePaths (hurl : K .url) (hforms : K (.page .forms))
    (hvisit : ∀ url, K (.page (.goto url p.navigation))) (intent : Intent) :
    (probePaths p intent).Composed K Accident := by
  refine .bind (.query hurl) ?_
  intro url
  split
  · rename_i e he
    exact .fail ⟨rfl, Address.failsElsewhere_parse url e he⟩
  · split
    · exact .done _
    · exact composed_visitPaths hforms hvisit _

/-- A step that can be performed. -/
def Step.Known (s : Step) : Prop := ∀ word, s.kind ≠ .unknown word

theorem sites_known : ∀ site ∈ sites, ∀ step ∈ site.steps, step.Known := by
  simp [sites, Step.Known]

/-- The steps of a site wait for elements, type into them and click them. -/
theorem composed_runSteps {timeout : Int} (hwait : ∀ selector, K (.page (.waitVisible selector timeout)))
    (hfill : ∀ selector value, K (.page (.fill selector value))) (hclick : ∀ selector, K (.page (.click selector)))
    (c : Credentials) {steps : List Step} (hsteps : ∀ step ∈ steps, step.Known) :
    (runSteps c timeout steps).Composed K Accident := by
  induction steps with
  | nil => exact .done _
  | cons step rest ih =>
    obtain ⟨hstep, hrest⟩ := List.forall_mem_cons.1 hsteps
    have hact : (step.act c).Composed K Accident := by
      unfold Step.act
      split
      · exact .query (hfill _ _)
      · exact .query (hfill _ _)
      · exact .query (hclick _)
      · exact .done _
      · rename_i word hkind
        exact absurd hkind (hstep word)
    exact .bind (.query (hwait _)) (fun _ => .bind hact (fun _ => ih hrest))

/-- The sequence of a site asks for the address, and then it goes through its steps. -/
theorem composed_siteSequence (hurl : K .url) (hwait : ∀ selector, K (.page (.waitVisible selector p.navigation)))
    (hfill : ∀ selector value, K (.page (.fill selector value))) (hclick : ∀ selector, K (.page (.click selector)))
    (c : Credentials) : (siteSequence p c).Composed K Accident := by
  refine .bind (.query hurl) ?_
  intro url
  split
  · rename_i e he
    exact .fail ⟨rfl, failsElsewhere_siteFor url e he⟩
  · exact .done _
  · rename_i site hsite
    have hsteps := sites_known site (siteFor_mem hsite)
    exact .onRefusal (.bind (composed_runSteps hwait hfill hclick c hsteps) (fun _ => .done _)) (fun _ => .done _)

end Parts

section Fields

variable {K : Question → Prop} {F : Failure → Prop}

theorem composed_findField (p : Patience) (fields : List String) : (findField p fields).Composed K F :=
  .bind (Target.composed_resolve _ _ _) (fun _ => .done _)

theorem composed_needField (p : Patience) (fields : List String) {name : String}
    (hmissing : F (.signIn (.noField name))) : (needField p fields name).Composed K F := by
  refine .bind (composed_findField p fields) ?_
  intro found
  cases found with
  | none => exact .fail hmissing
  | some selector => exact .done _

theorem composed_nameField (p : Patience) (c : Credentials) (intent : Intent) :
    (nameField p c intent).Composed K F := by
  cases intent with
  | login => exact .done _
  | signup =>
    unfold nameField
    dsimp only
    split
    · exact composed_findField p _
    · exact .done _

theorem composed_confirmField (p : Patience) (password : String) (intent : Intent) :
    (confirmField p password intent).Composed K F := by
  cases intent with
  | login => exact .done _
  | signup => exact .bind (composed_findField p _) (fun _ => .done _)

/-- The fields of a form are only looked for, and of itself that fails only where one is missing. -/
theorem composed_findFields (p : Patience) (c : Credentials) (intent : Intent)
    (hmissing : ∀ name, F (.signIn (.noField name))) : (findFields p c intent).Composed K F :=
  .bind (composed_needField p _ (hmissing _)) fun _ => .bind (composed_nameField p c intent) fun _ =>
    .bind (composed_needField p _ (hmissing _)) fun _ => .bind (composed_confirmField p _ intent) fun _ => .done _

theorem composed_fillMaybe (hfill : ∀ selector value, K (.page (.fill selector value)))
    (selector : Option String) (value : String) : (fillMaybe selector value).Composed K F := by
  cases selector with
  | none => exact .done _
  | some selector => exact .query (hfill selector value)

/-- Typing in fails only as a page does. -/
theorem composed_typeIn (hfill : ∀ selector value, K (.page (.fill selector value))) (c : Credentials)
    (f : Fields) : (typeIn c f).Composed K F :=
  .bind (.query (hfill _ _)) fun _ => .bind (composed_fillMaybe hfill _ _) fun _ =>
    .bind (.query (hfill _ _)) fun _ => composed_fillMaybe hfill _ _

end Fields

theorem composed_fillForm {K : Question → Prop} (hfill : ∀ selector value, K (.page (.fill selector value)))
    (p : Patience) (c : Credentials) (intent : Intent) : (fillForm p c intent).Composed K Accident :=
  .bind (composed_findFields p c intent fun _ => ⟨rfl, rfl⟩) (composed_typeIn hfill c)

theorem composed_submitForm {K : Question → Prop} (hclick : ∀ selector, K (.page (.click selector)))
    (hpress : ∀ selector key, K (.page (.press selector key))) (p : Patience) (intent : Intent) :
    (submitForm p intent).Composed K Accident := by
  refine .bind (composed_findField p _) ?_
  intro found
  cases found with
  | none =>
    exact .bind (composed_needField p _ ⟨rfl, rfl⟩)
      (fun _ => .bind (.query (hpress _ _)) (fun _ => .done _))
  | some button => exact .bind (.query (hclick _)) (fun _ => .done _)

theorem composed_siteComesFirst (requested : Option Intent) :
    (siteComesFirst requested).Composed Idle Accident := by
  unfold siteComesFirst
  split
  · exact .pure _
  · exact .pure _
  · exact .map _ (.lift (composed_hasAuthForm ⟨⟨rfl, rfl, rfl⟩, rfl⟩))

theorem composed_trySite (p : Patience) (c : Credentials) : (trySite p c).Composed Public Accident := by
  have hsequence : (siteSequence p c).Composed Public Accident :=
    composed_siteSequence ⟨rfl, rfl⟩ (fun _ => ⟨rfl, rfl⟩) (fun _ _ => ⟨rfl, rfl⟩) (fun _ => ⟨rfl, rfl⟩) c
  refine .bind (.lift hsequence) ?_
  intro found
  cases found with
  | none => exact .pure _
  | some domain => exact .bind (.change _) (fun _ => .pure _)

theorem composed_reachForm (p : Patience) (intent : Intent) : (reachForm p intent).Composed Idle Accident := by
  have hforms : hasAuthForm.Composed Idle Accident := composed_hasAuthForm ⟨⟨rfl, rfl, rfl⟩, rfl⟩
  have hlink : (do if ← clickLink p intent then hasAuthForm else pure false : Script Bool).Composed
      Idle Accident := by
    refine .bind (composed_clickLink (fun _ => ⟨⟨rfl, rfl, rfl⟩, rfl⟩) ⟨⟨rfl, rfl, rfl⟩, rfl⟩ intent) ?_
    intro clicked
    cases clicked with
    | false => exact .done _
    | true => exact hforms
  have hpaths : (probePaths p intent).Composed Idle Accident :=
    composed_probePaths ⟨⟨rfl, rfl, rfl⟩, rfl⟩ ⟨⟨rfl, rfl, rfl⟩, rfl⟩ (fun _ => ⟨⟨rfl, rfl, rfl⟩, rfl⟩) intent
  refine .bind (.lift hforms) ?_
  intro here
  cases here with
  | true => exact .advance _
  | false =>
    refine .bind (.advance _) (fun _ => .bind (.lift hlink) ?_)
    intro viaLink
    cases viaLink with
    | true => exact .advance _
    | false =>
      refine .bind (.lift hpaths) ?_
      intro viaPath
      cases viaPath with
      | true => exact .advance _
      | false => exact .fail _

theorem composed_detect (requested : Option Intent) : (detect requested).Composed Idle Accident := by
  have hintent : (formIntent requested).Composed Idle Accident := by
    cases requested with
    | none => exact .lift (composed_inferIntent ⟨⟨rfl, rfl, rfl⟩, rfl⟩)
    | some intent => exact .pure _
  exact .bind (.advance _) fun _ => .bind hintent fun _ => .bind (.change _) fun _ =>
    .bind (.advance _) fun _ => .bind (.lift (.query ⟨⟨rfl, rfl, rfl⟩, rfl⟩)) fun _ => .pure _

theorem composed_approach (p : Patience) (c : Credentials) (requested : Option Intent) :
    (approach p c requested).Composed Public Accident := by
  have hfirst := (composed_siteComesFirst requested).widen fun _ hq => hq.1.toPublic
  have hreach := (composed_reachForm p (requested.getD .login)).widen fun _ hq => hq.1.toPublic
  have hdetect := (composed_detect requested).widen fun _ hq => hq.1.toPublic
  refine .bind (.lift (.query ⟨rfl, rfl⟩)) fun start => .bind hfirst ?_
  intro siteFirst
  have hearly : (earlySite p c siteFirst).Composed Public Accident := by
    cases siteFirst with
    | true => exact composed_trySite p c
    | false => exact .pure _
  refine .bind hearly ?_
  intro settled
  cases settled with
  | true =>
    exact .bind (.change _) fun _ => .bind (.advance _) fun _ => .bind (.advance _) fun _ => .pure _
  | false => exact .bind hreach fun _ => .bind hdetect fun _ => .pure _

theorem composed_fillIn (p : Patience) (c : Credentials) (standing : Standing) :
    (fillIn p c standing).Composed Public Accident := by
  cases standing with
  | settled start => exact .pure _
  | atForm intent address siteTried =>
    have hlate : (lateSite p c intent siteTried).Composed Public Accident := by
      unfold lateSite
      split
      · exact composed_trySite p c
      · exact .pure _
    refine .bind hlate ?_
    intro settled
    cases settled with
    | true => exact .pure _
    | false => exact .bind (.lift (composed_fillForm (fun _ _ => ⟨rfl, rfl⟩) p c intent)) (fun _ => .pure _)

theorem composed_finish (p : Patience) (bySite : Bool) (before : String) :
    (finish p bySite before).Composed Typeless Accident := by
  have hsend : (send p bySite).Composed Typeless Accident := by
    cases bySite with
    | true => exact .pure _
    | false =>
      have hsubmit : ∀ intent, (submitForm p intent).Composed Typeless Accident :=
        composed_submitForm (fun _ => ⟨⟨rfl, rfl, rfl⟩, rfl⟩) (fun _ _ => ⟨⟨rfl, rfl, rfl⟩, rfl⟩) p
      exact .bind .get fun _ => .bind (.lift (hsubmit _)) fun _ => .change _
  have hwait : (waitForNavigation p before).Composed Typeless Accident :=
    composed_waitForNavigation ⟨⟨rfl, rfl, rfl⟩, rfl⟩ ⟨⟨rfl, rfl, rfl⟩, rfl⟩
  exact .bind (.advance _) fun _ => .bind hsend fun _ => .bind (.lift hwait) fun _ =>
    .bind (.lift (.query ⟨⟨rfl, rfl, rfl⟩, rfl⟩)) fun _ => .bind (.change _) fun _ => .advance _

/-- Signing in is composed, and it resolves no reference to a secret. -/
theorem composed_signIn (p : Patience) (c : Credentials) (requested : Option Intent) :
    (signIn p c requested).Composed Public Accident :=
  .bind (composed_approach p c requested) fun standing => .bind (composed_fillIn p c standing)
    fun filled => (composed_finish p filled.1 filled.2).widen fun _ hq => hq.1.toPublic

end SignIn

/-! ## §6 Actions -/

namespace Vocabulary

open Target Instruction
open Question (Direct Public)
open Failure (Accident Mishap Supplied)

/-- A kind of failures to which all belong that an action may raise which takes at least `count` parameters
and declines nothing: a parameter is missing only where fewer are given. -/
structure Permits (F : Failure → Prop) (params : List String) (count : Nat) : Prop where
  accident : ∀ e, e.Accident → F e
  missing : params.length < count → F (.ordinary .missingParameter)

/-- The same for an action that may also decline. -/
structure PermitsAll (F : Failure → Prop) (params : List String) (count : Nat) : Prop
    extends Permits F params count where
  declined : ∀ e, e.declines = true → F e

section Permits

variable {F : Failure → Prop} {params : List String} {count : Nat}

theorem Permits.mishap : Permits Mishap params count := ⟨fun _ he => he.1, fun _ => rfl⟩

theorem Permits.any (count : Nat) : Permits (fun _ => True) params count :=
  ⟨fun _ _ => trivial, fun _ => trivial⟩

theorem PermitsAll.any (count : Nat) : PermitsAll (fun _ => True) params count :=
  ⟨.any count, fun _ _ => trivial⟩

/-- Where enough parameters are given, none is missing. -/
theorem PermitsAll.supplied (h : count ≤ params.length) : PermitsAll Supplied params count := by
  refine ⟨⟨fun _ he => he.2, fun hshort => absurd h (Nat.not_le.2 hshort)⟩, ?_⟩
  intro e he
  cases e with
  | ordinary fault => cases he
  | _ => rfl

theorem PermitsAll.of_supplied (h : PermitsAll F params count) : ∀ e, e.Supplied → F e := by
  intro e he
  cases hdeclines : e.declines with
  | true => exact h.declined e hdeclines
  | false => exact h.accident e ⟨hdeclines, he⟩

end Permits

variable {K : Question → Prop} {F : Failure → Prop} {count : Nat} (s : Settings) (params : List String)

theorem composed_param (h : Permits F params count) {i : Nat} (hi : i < count) :
    (param params i).Composed K F := by
  unfold param
  split
  · exact .done _
  · rename_i hnone
    exact .fail (h.missing (Nat.lt_of_le_of_lt (List.getElem?_eq_none_iff.1 hnone) hi))

theorem composed_target (h : PermitsAll F params count) {i : Nat} (hi : i < count) :
    (target s params i).Composed K F :=
  .bind (composed_param params h.toPermits hi) fun _ =>
    composed_resolveTarget _ _ _ fun _ _ _ => h.declined _ rfl

theorem composed_onTarget (h : PermitsAll F params 1) {request : String → Script Unit}
    (hrequest : ∀ selector, (request selector).Composed K F) : (onTarget request s params).Composed K F :=
  .bind (composed_target s params h (by decide)) fun selector => .bind (hrequest selector) fun _ => .done _

theorem composed_goto (h : Permits F params 1) : (goto s params).Composed Public F :=
  .bind (composed_param params h (by decide)) fun _ => .bind (.query ⟨rfl, rfl⟩) fun _ =>
    .bind (.query ⟨rfl, rfl⟩) fun _ => .done _

theorem composed_waitForNavigation : (waitForNavigation s params).Composed Public F :=
  .bind (.query ⟨rfl, rfl⟩) fun _ => .bind (.query ⟨rfl, rfl⟩) fun _ => .done _

theorem composed_wait (h : PermitsAll F params 1) : (wait s params).Composed Public F :=
  .bind (composed_param params h.toPermits (by decide)) fun _ =>
    .bind (.ofExcept _ fun e he => h.of_supplied e (supplied_durationOf he)) fun _ =>
    .bind (.query ⟨rfl, rfl⟩) fun _ => .done _

theorem composed_selectOption (h : PermitsAll F params 2) : (selectOption s params).Composed Public F := by
  refine .bind (composed_target s params h (by decide)) fun selector =>
    .bind (composed_param params h.toPermits (by decide)) fun option => .bind (.query ⟨rfl, rfl⟩) ?_
  intro part
  split
  · exact .bind (.query ⟨rfl, rfl⟩) (fun _ => .done _)
  · exact .fail (h.declined _ rfl)

theorem composed_pressKey (h : Permits F params 1) : (pressKey s params).Composed Public F :=
  .bind (composed_param params h (by decide)) fun _ => .bind (.query ⟨rfl, rfl⟩) fun _ => .done _

theorem composed_uploadFile (h : PermitsAll F params 2) : (uploadFile s params).Composed Public F := by
  refine .bind (composed_param params h.toPermits (by decide)) fun written =>
    .bind (.query ⟨rfl, rfl⟩) fun path => .bind (.query ⟨rfl, rfl⟩) ?_
  intro isFile
  split
  · exact .fail (h.declined _ rfl)
  · exact .bind (composed_target s params h (by decide)) fun _ => .bind (.query ⟨rfl, rfl⟩) fun _ => .done _

theorem composed_centre (hF : ∀ e, e.Supplied → F e) (hquery : ∀ selector, K (.page (.query selector)))
    (selector : String) : (centre selector).Composed K F := by
  refine .bind (.query (hquery selector)) ?_
  intro found
  dsimp only
  split
  · refine .ofExcept _ fun e he => hF e ?_
    cases hcentre : boxCentre ((found.map Element.box).getD .null) with
    | ok c =>
      rw [hcentre] at he
      cases he
    | error fault =>
      rw [hcentre] at he
      cases he
      exact failsElsewhere_boxCentre _ fault hcentre
  · exact .fail (hF _ rfl)

theorem composed_dragAndDrop (h : PermitsAll F params 2) : (dragAndDrop s params).Composed Public F :=
  .bind (composed_target s params h (by decide)) fun _ => .bind (composed_target s params h (by decide)) fun _ =>
    .bind (composed_centre h.of_supplied (fun _ => ⟨rfl, rfl⟩) _) fun _ =>
    .bind (composed_centre h.of_supplied (fun _ => ⟨rfl, rfl⟩) _) fun _ =>
    .bind (.query ⟨rfl, rfl⟩) fun _ => .bind (.query ⟨rfl, rfl⟩) fun _ =>
    .bind (.query ⟨rfl, rfl⟩) fun _ => .bind (.query ⟨rfl, rfl⟩) fun _ => .done _

theorem composed_listed (hF : ∀ e, e.Accident → F e) (v : Value) : (listed v).Composed K F := by
  unfold listed
  split
  · exact .done _
  · rename_i e he
    exact .fail (hF _ ⟨rfl, SignIn.failsElsewhere_itemsOf v e he⟩)

theorem composed_findElements (hF : ∀ e, e.Accident → F e)
    (hfind : ∀ needle limit, K (.page (.find needle limit))) (text : String) :
    (findElements text).Composed K F := by
  unfold findElements
  dsimp only
  split
  · exact .done _
  · exact .bind (.query (hfind _ _)) (fun _ => composed_listed hF _)

theorem composed_findElement (h : Permits F params 1) : (findElement s params).Composed Public F :=
  .bind (composed_param params h (by decide)) fun _ =>
    .bind (composed_findElements h.accident (fun _ _ => ⟨rfl, rfl⟩) _) fun _ => .done _

theorem composed_foundSelector (hF : ∀ e, e.Accident → F e) (v : Value) :
    (foundSelector v).Composed K F := by
  unfold foundSelector
  split
  · split
    · exact .done _
    · exact .fail (hF _ ⟨rfl, rfl⟩)
  · exact .fail (hF _ ⟨rfl, rfl⟩)

theorem composed_smartClick (h : PermitsAll F params 1) : (smartClick s params).Composed Public F := by
  refine .bind (composed_param params h.toPermits (by decide)) fun text =>
    .bind (composed_findElements h.accident (fun _ _ => ⟨rfl, rfl⟩) text) ?_
  intro found
  cases found with
  | nil => exact .fail (h.declined _ rfl)
  | cons best _ =>
    exact .bind (composed_foundSelector h.accident best) fun _ => .bind (.query ⟨rfl, rfl⟩) fun _ => .done _

theorem composed_inspectPage (hF : ∀ e, e.Accident → F e) : (inspectPage s params).Composed Public F :=
  .bind (.query ⟨rfl, rfl⟩) fun _ => .bind (composed_listed hF _) fun _ => .done _

theorem composed_screenshotPath (hF : ∀ e, e.Accident → F e) (requested : String) :
    (screenshotPath s requested).Composed Public F := by
  unfold screenshotPath
  split
  · exact .bind (.query ⟨rfl, rfl⟩) (fun _ => .done _)
  · refine .bind (.query ⟨rfl, rfl⟩) ?_
    intro path
    split
    · exact .done _
    · split
      · exact .fail (hF _ ⟨rfl, rfl⟩)
      · exact .done _

theorem composed_screenshot (hF : ∀ e, e.Accident → F e) : (screenshot s params).Composed Public F :=
  .bind (composed_screenshotPath s hF _) fun _ => .bind (.query ⟨rfl, rfl⟩) fun _ =>
    .bind (.query ⟨rfl, rfl⟩) fun _ => .done _

theorem composed_extractText (h : PermitsAll F params 1) : (extractText s params).Composed Public F :=
  .bind (composed_target s params h (by decide)) fun _ => .bind (.query ⟨rfl, rfl⟩) fun _ => .done _

theorem composed_extractHtml (h : PermitsAll F params 1) : (extractHtml s params).Composed Public F :=
  .bind (composed_target s params h (by decide)) fun _ => .bind (.query ⟨rfl, rfl⟩) fun _ => .done _

theorem composed_evaluate (h : Permits F params 1) : (evaluate s params).Composed Public F :=
  .bind (composed_param params h (by decide)) fun _ => .query ⟨rfl, rfl⟩

theorem composed_getCookies : (getCookies s params).Composed Public F :=
  .bind (.query ⟨rfl, rfl⟩) fun _ => .done _

theorem composed_setCookies (h : PermitsAll F params 1) : (setCookies s params).Composed Public F :=
  .bind (composed_param params h.toPermits (by decide)) fun _ =>
    .bind (.ofExcept _ fun e he => h.of_supplied e (supplied_readCookies he)) fun _ =>
    .bind (.query ⟨rfl, rfl⟩) fun _ => .bind (.query ⟨rfl, rfl⟩) fun _ => .done _

theorem composed_typeInto (h : PermitsAll F params 2) : (typeInto s params).Composed Direct F :=
  .bind (composed_target s params h (by decide)) fun _ =>
    .bind (composed_param params h.toPermits (by decide)) fun _ =>
    .bind (.query rfl) fun _ => .bind (.query rfl) fun _ => .bind (.query rfl) fun _ => .done _

/-- The third parameter may be missing. -/
theorem composed_credentials (h : Permits F params 2) (hsecret : ∀ parameter, K (.secret parameter)) :
    (credentials params).Composed K F := by
  refine .bind (composed_param params h (by decide)) fun _ => .bind (.query (hsecret _)) fun _ =>
    .bind (composed_param params h (by decide)) fun _ => .bind (.query (hsecret _)) fun _ => ?_
  dsimp only
  split
  · split
    · exact .bind (.done _) (fun _ => .done _)
    · exact .bind (.map (.query (hsecret _)) some) (fun _ => .done _)
  · exact .bind (.done _) (fun _ => .done _)

/-- Every built-in action is composed without a look at secrets, or it types into a field, or it signs
in. With as many parameters as it takes at least, it misses none. -/
theorem composed_builtIn : ∀ spec ∈ builtInSpecs,
    (∀ F s params, PermitsAll F params spec.minParams.toNat → (spec.handler s params).Composed Public F) ∨
      spec.minParams = 2 ∧ (spec.handler = typeText ∨ spec.handler = typeAndSubmit ∨
        ∃ intent, spec.handler = signInAs intent) := by
  unfold builtInSpecs
  simp only [List.forall_mem_cons]
  refine ⟨.inl fun F s params h => composed_goto s params h.toPermits,
    .inl fun F s params h => composed_onTarget s params h fun _ => .query ⟨rfl, rfl⟩,
    .inl fun F s params h => composed_smartClick s params h,
    .inr ⟨rfl, .inr (.inl rfl)⟩, .inr ⟨rfl, .inl rfl⟩,
    .inl fun F s params _ => composed_waitForNavigation s params,
    .inl fun F s params h => composed_onTarget s params h fun _ => .query ⟨rfl, rfl⟩,
    .inl fun F s params h => composed_wait s params h,
    .inl fun F s params h => composed_screenshot s params h.accident,
    .inl fun F s params h => composed_extractText s params h,
    .inl fun F s params h => composed_extractHtml s params h,
    .inl fun F s params h => composed_onTarget s params h fun _ => .query ⟨rfl, rfl⟩,
    .inl fun F s params h => composed_evaluate s params h.toPermits,
    .inl fun F s params h => composed_selectOption s params h,
    .inl fun F s params h => composed_onTarget s params h fun _ => .query ⟨rfl, rfl⟩,
    .inl fun F s params h => composed_onTarget s params h fun _ => .query ⟨rfl, rfl⟩,
    .inl fun F s params h => composed_onTarget s params h fun _ => .query ⟨rfl, rfl⟩,
    .inl fun F s params h => composed_pressKey s params h.toPermits,
    .inl fun F s params h => composed_uploadFile s params h,
    .inl fun F s params _ => composed_getCookies s params,
    .inl fun F s params h => composed_setCookies s params h,
    .inl fun F s params h => composed_dragAndDrop s params h,
    .inl fun F s params h => composed_inspectPage s params h.accident,
    .inl fun F s params h => composed_findElement s params h.toPermits,
    .inl fun F s params h => composed_onTarget s params h fun _ => .query ⟨rfl, rfl⟩,
    .inr ⟨rfl, .inr (.inr ⟨_, rfl⟩)⟩, .inr ⟨rfl, .inr (.inr ⟨_, rfl⟩)⟩,
    .inr ⟨rfl, .inr (.inr ⟨_, rfl⟩)⟩, nofun⟩

/-- An action for signing in: the credentials, then the attempt as a flow, whose record is its result. -/
theorem signInAs_eq (intent : Option SignIn.Intent) :
    signInAs intent s params = credentials params >>= fun c =>
      SignIn.Flow.on (SignIn.signIn ⟨s.probeTimeout, s.submitWait, s.navigationTimeout⟩ c intent)
          { intent := intent } >>= fun p =>
        match p.1 with
        | .ok () => .done p.2.toValue
        | .error e => .fail e := by
  show (credentials params >>= fun c => SignIn.authenticate _ c intent >>= _) = _
  congr 1
  funext c
  unfold SignIn.authenticate
  rw [Script.bind_assoc]
  congr 1
  funext p
  rcases p with ⟨_ | _, a⟩ <;> rfl

/-- What an attempt ensures of its outcome and its record, signing in ensures of its result. -/
theorem ensures_signedIn {x : SignIn.Flow Unit} {a : SignIn.Attempt}
    {Q : List Exchange → Except Failure Unit → SignIn.Attempt → Prop}
    {P : List Exchange → Except Failure Value → Prop} (h : SignIn.Flow.Ensures x a Q)
    (hok : ∀ t a', Q t (.ok ()) a' → P t (.ok a'.toValue))
    (herror : ∀ t e a', Q t (.error e) a' → P t (.error e)) :
    (SignIn.Flow.on x a >>= fun p =>
      match p.1 with
      | .ok () => .done p.2.toValue
      | .error e => .fail e : Script Value).Ensures P := by
  refine Script.Ensures.bind h ?_ ?_
  · rintro t ⟨v, a⟩ ⟨v', a', hresult, hv⟩
    cases hresult
    cases v with
    | ok _ =>
      show P (t ++ []) _
      rw [List.append_nil]
      exact hok t a hv
    | error e =>
      show P (t ++ []) _
      rw [List.append_nil]
      exact herror t e a hv
  · rintro t e ⟨v, a, hresult, -⟩
    cases hresult

/-! ## §7 The vocabulary in use -/

theorem exists_ofSpec_of_mem {a : Action Handler} (h : a ∈ builtInActions) :
    ∃ spec ∈ builtInSpecs, Action.ofSpec spec = .ok a := by
  obtain ⟨spec, hspec, ha⟩ := List.mem_filterMap.1 h
  refine ⟨spec, hspec, ?_⟩
  cases hof : Action.ofSpec spec with
  | error fault => rw [hof] at ha; cases ha
  | ok b => rw [hof] at ha; cases ha; rfl

/-- The vocabulary is made from checked actions. -/
theorem built_frozenVocabulary : frozenVocabulary.Built := by
  refine .freeze ?_
  unfold vocabulary
  split
  · rename_i r hr
    refine Registry.Built.empty.registerAll (fun a ha => ?_) hr
    obtain ⟨spec, -, hof⟩ := exists_ofSpec_of_mem ha
    exact ⟨spec, hof⟩
  · exact .empty

/-- Every action in the vocabulary is a built-in one. -/
theorem exists_ofSpec {key : String} {a : Action Handler} (h : frozenVocabulary.lookup key = some a) :
    ∃ spec ∈ builtInSpecs, Action.ofSpec spec = .ok a := by
  have hmem : a ∈ vocabulary.actions := List.mem_of_find?_eq_some h
  have hbuiltIn : a ∈ builtInActions := by
    unfold vocabulary at hmem
    split at hmem
    · rename_i r hr
      rw [Registry.registerAll_actions hr] at hmem
      exact hmem
    · cases hmem
  exact exists_ofSpec_of_mem hbuiltIn

theorem exists_spec {key : String} {a : Action Handler} (h : frozenVocabulary.lookup key = some a) :
    ∃ spec ∈ builtInSpecs, a.handler = spec.handler := by
  obtain ⟨spec, hspec, hof⟩ := exists_ofSpec h
  exact ⟨spec, hspec, (Action.ofSpec_eq_ok hof).2.1⟩

end Vocabulary
end BrowserScript
