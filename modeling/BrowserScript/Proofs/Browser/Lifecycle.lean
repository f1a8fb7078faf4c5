/-
BrowserScript.Proofs.Browser.Lifecycle — what a session acquires is released.

A session makes six requests when it starts (`openings`). The first refusal among them ends the start, so
what was granted is always a first part of the list, and stopping has to find out what that was.

* `Releases granted released`: the requests `released` let go of what `granted` have acquired, of nothing
  else, and in the order of a stop, in which none stands twice.
* `openAll_cases`: the run lemma of a start. One request after the other is granted, up to a refusal.
* `stop_eq`: stopping makes the releases of what is held and forgets it all, whatever is refused.

Main statement: `during_releases`. Whatever the browser refuses and whatever the body does, all that was
acquired is released, and what leaves the block is the failure of the start or the end of the body.
-/
import BrowserScript.Browser.Session
import BrowserScript.Proofs.Browser.Transcript

namespace BrowserScript.Browser

/-! ## §1 Requests of a session -/

/-- The failure that is planned for a request to the browser. -/
def Machine.refusal? (m : Machine) (c : ContextCall) : Option Failure := planned m.world.plan [c.method]

/-- The machine with requests to the browser written into its log. -/
def Machine.noting (m : Machine) (cs : List ContextCall) : Machine :=
  { m with world := { m.world with log := m.world.log ++ cs.map .context } }

/-- A request that changes nothing but the log. -/
def ContextCall.Silent (c : ContextCall) : Prop := ∀ w : World, w.afterContext c = (w, [])

/-- The request that lets go of what a request has acquired. -/
def ContextCall.undo? : ContextCall → Option ContextCall
  | .startDriver => some .stopDriver
  | .launch .. => some .closeBrowser
  | .newContext .. => some .closeContext
  | _ => none

/-- The releases in the order in which a stop makes them. -/
def stopOrder : List ContextCall := [.closeContext, .closeBrowser, .stopDriver]

/-- Everything that was acquired is released, nothing else is, and each in its turn: as the three requests of
`stopOrder` differ, none of them is made twice. -/
structure Releases (granted released : List ContextCall) : Prop where
  in_order : released.Sublist stopOrder
  mem_iff : ∀ c, c ∈ released ↔ ∃ g ∈ granted, g.undo? = some c

namespace Machine

variable (m : Machine) (c : ContextCall) (cs : List ContextCall)

@[simp] theorem noting_nil : m.noting [] = m := by simp [noting]

@[simp] theorem noting_noting (ds : List ContextCall) : (m.noting cs).noting ds = m.noting (cs ++ ds) := by
  simp [noting]

/-- A silent request is written down, and refused where that is planned. -/
theorem askContext_silent {c : ContextCall} (hc : c.Silent) :
    m.askContext c = ((match m.refusal? c with | some e => .error e | none => .ok ()), m.noting [c]) := by
  have hhear : m.tab.hear [] = m.tab := by
    unfold ActivePage.hear
    split <;> rfl
  have hplan : planned (m.world.logged (.context c)).plan [c.method] = m.refusal? c := rfl
  have hafter := hc (m.world.logged (.context c))
  unfold askContext World.askContext
  simp only [hplan, hafter]
  cases m.refusal? c with
  | some e => simp [moved, hhear, noting, World.logged]
  | none => simp [moved, hhear, noting, World.logged]

end Machine

/-! ## §2 Starting -/

namespace Session

/-- The requests of a start in their order. -/
def openings (settings : Settings) : List ContextCall :=
  [.startDriver, .launch settings.browser settings.headless,
    .newContext settings.viewport.1 settings.viewport.2, .setNavigationTimeout settings.navigationTimeout,
    .setTimeout settings.actionTimeout, .newPage]

/-- What is held once a request of a start is granted. -/
def granting (w : World) : ContextCall → Session → Session
  | .startDriver, s => { s with driver := true }
  | .launch .., s => { s with browser := true }
  | .newContext .., s => { s with context := true }
  | .newPage, s => { s with page := some w.firstPage }
  | _, s => s

/-- Requests made one after the other as long as they are granted. -/
def openAll (s : Session) (m : Machine) : List ContextCall → Step
  | [] => (.ok (), s, m)
  | c :: rest => andThen (s.step m c (granting m.world c)) fun s m => openAll s m rest

theorem openings_silent (settings : Settings) : ∀ c ∈ openings settings, c.Silent := by
  simp only [openings, List.forall_mem_cons]
  exact ⟨fun _ => rfl, fun _ => rfl, fun _ => rfl, fun _ => rfl, fun _ => rfl, fun _ => rfl, nofun⟩

theorem step_silent (s : Session) (m : Machine) {c : ContextCall} (hc : c.Silent) (held : Session → Session) :
    s.step m c held = match m.refusal? c with
      | some e => (.error e, s, m.noting [c])
      | none => (.ok (), held s, m.noting [c]) := by
  unfold step
  rw [m.askContext_silent hc]
  cases m.refusal? c <;> rfl

/-- A start makes its requests one after the other. -/
theorem start_eq (s : Session) (m : Machine) : s.start m = openAll s m (openings m.config.toSettings) := by
  have hlast : ∀ x : Step, andThen x (fun s m => (.ok (), s, m)) = x := by
    rintro ⟨_ | _, s, m⟩ <;> rfl
  simp only [start, openings, openAll, hlast]
  rfl

/-- The first refusal ends a start, with what was granted until then. -/
theorem openAll_cases (s : Session) (m : Machine) {cs : List ContextCall} (hcs : ∀ c ∈ cs, c.Silent) :
    (∃ granted c rest e, cs = granted ++ c :: rest ∧ (∀ g ∈ granted, m.refusal? g = none) ∧
        m.refusal? c = some e ∧
        openAll s m cs
          = (.error e, granted.foldl (fun s g => granting m.world g s) s, m.noting (granted ++ [c]))) ∨
      (∀ g ∈ cs, m.refusal? g = none) ∧
        openAll s m cs = (.ok (), cs.foldl (fun s g => granting m.world g s) s, m.noting cs) := by
  induction cs generalizing s m with
  | nil => exact .inr ⟨List.forall_mem_nil _, by simp [openAll]⟩
  | cons c rest ih =>
    obtain ⟨hc, hrest⟩ := List.forall_mem_cons.1 hcs
    cases hrefusal : m.refusal? c with
    | some e =>
      refine .inl ⟨[], c, rest, e, rfl, List.forall_mem_nil _, hrefusal, ?_⟩
      simp [openAll, step_silent s m hc, hrefusal, andThen]
    | none =>
      have hgranting : ∀ g, granting (m.noting [c]).world g = granting m.world g := by
        intro g
        cases g <;> rfl
      have hopen : openAll s m (c :: rest) = openAll (granting m.world c s) (m.noting [c]) rest := by
        simp [openAll, step_silent s m hc, hrefusal, andThen]
      rw [hopen]
      rcases ih (granting m.world c s) (m.noting [c]) hrest with
        ⟨granted, d, later, e, rfl, hgranted, hd, heq⟩ | ⟨hall, heq⟩
      · refine .inl ⟨c :: granted, d, later, e, rfl, List.forall_mem_cons.2 ⟨hrefusal, hgranted⟩, hd, ?_⟩
        simp [heq, hgranting]
      · refine .inr ⟨List.forall_mem_cons.2 ⟨hrefusal, hall⟩, ?_⟩
        simp [heq, hgranting]

/-! ## §3 Stopping -/

/-- The releases of what is held. -/
def toRelease (s : Session) : List ContextCall :=
  (if s.context then [.closeContext] else []) ++ (if s.browser then [.closeBrowser] else []) ++
    if s.driver then [.stopDriver] else []

theorem release_eq (held : Bool) (m : Machine) {c : ContextCall} (hc : c.Silent) :
    release held c m = m.noting (if held then [c] else []) := by
  cases held with
  | true => simp [release, m.askContext_silent hc]
  | false => simp [release]

/-- A stop makes the releases of what is held, whatever is refused, and nothing is held after it. -/
theorem stop_eq (s : Session) (m : Machine) : s.stop m = ({}, m.noting s.toRelease) := by
  have hcontext : ContextCall.closeContext.Silent := fun _ => rfl
  have hbrowser : ContextCall.closeBrowser.Silent := fun _ => rfl
  have hdriver : ContextCall.stopDriver.Silent := fun _ => rfl
  simp [stop, release_eq _ _ hcontext, release_eq _ _ hbrowser, release_eq _ _ hdriver, toRelease]

/-- After some requests were granted, what is held is what they have acquired. -/
theorem held_granted (w : World) (granted : List ContextCall) (s : Session) :
    let s' := granted.foldl (fun s g => granting w g s) s
    (s'.context = true ↔ s.context = true ∨ ∃ g ∈ granted, g.undo? = some .closeContext) ∧
    (s'.browser = true ↔ s.browser = true ∨ ∃ g ∈ granted, g.undo? = some .closeBrowser) ∧
    (s'.driver = true ↔ s.driver = true ∨ ∃ g ∈ granted, g.undo? = some .stopDriver) := by
  induction granted generalizing s with
  | nil => simp
  | cons g rest ih =>
    obtain ⟨hcontext, hbrowser, hdriver⟩ := ih (granting w g s)
    simp only [List.foldl_cons, hcontext, hbrowser, hdriver, List.mem_cons, exists_eq_or_imp]
    cases g <;> simp [granting, ContextCall.undo?]

theorem toRelease_sublist (s : Session) : s.toRelease.Sublist stopOrder := by
  have hpart : ∀ (held : Bool) (c : ContextCall), (if held then [c] else []).Sublist [c] := by
    intro held c
    cases held <;> simp
  exact ((hpart s.context .closeContext).append (hpart s.browser .closeBrowser)).append
    (hpart s.driver .stopDriver)

theorem mem_toRelease (s : Session) (c : ContextCall) :
    c ∈ s.toRelease ↔ s.context = true ∧ c = .closeContext ∨ s.browser = true ∧ c = .closeBrowser ∨
      s.driver = true ∧ c = .stopDriver := by
  simp [toRelease]

theorem releases_granted (w : World) (granted : List ContextCall) :
    Releases granted (granted.foldl (fun s g => granting w g s) {}).toRelease where
  in_order := toRelease_sublist _
  mem_iff c := by
    obtain ⟨hcontext, hbrowser, hdriver⟩ := held_granted w granted {}
    rw [mem_toRelease, hcontext, hbrowser, hdriver]
    constructor
    · rintro (⟨hheld, rfl⟩ | ⟨hheld, rfl⟩ | ⟨hheld, rfl⟩)
      · simpa using hheld
      · simpa using hheld
      · simpa using hheld
    · rintro ⟨g, hg, hundo⟩
      cases g with
      | startDriver =>
        cases hundo
        exact .inr (.inr ⟨.inr ⟨_, hg, rfl⟩, rfl⟩)
      | launch browser headless =>
        cases hundo
        exact .inr (.inl ⟨.inr ⟨_, hg, rfl⟩, rfl⟩)
      | newContext width height =>
        cases hundo
        exact .inl ⟨.inr ⟨_, hg, rfl⟩, rfl⟩
      | _ => cases hundo

/-! ## §4 The block -/

variable {α : Type}

/-- A start that fails is stopped at once, and the failure stays that of the start. -/
theorem during_of_refused (m : Machine) (body : String → Machine → Except Failure α × Machine)
    {s : Session} {m₁ : Machine} {e : Failure} (hstart : ({} : Session).start m = (.error e, s, m₁)) :
    during m body = (.error e, {}, m₁.noting s.toRelease) := by
  simp [during, enter, hstart, stop_eq]

/-- A start that succeeds is followed by the body and the stop, and what the body ends in stays. -/
theorem during_of_opened (m : Machine) (body : String → Machine → Except Failure α × Machine)
    {s : Session} {m₁ : Machine} {page : String} (hstart : ({} : Session).start m = (.ok (), s, m₁))
    (hpage : s.page = some page) :
    during m body = ((body page m₁).1, {}, (body page m₁).2.noting s.toRelease) := by
  simp [during, enter, hstart, page?, hpage, stop_eq]

/-- A session around a body, whatever the browser refuses and whatever the body does. The requests of the start
are granted one after the other, until the first refusal if there is one. What they have acquired is released
afterwards, each thing once and in the order of a stop, and nothing else is; it does not matter which of the
releases are refused. Nothing is held in the end. A refused start ends the block with its failure and without
the body, and otherwise the block ends as the body does. -/
theorem during_releases (m : Machine) (body : String → Machine → Except Failure α × Machine) :
    ∃ granted released,
      granted <+: openings m.config.toSettings ∧ (∀ g ∈ granted, m.refusal? g = none) ∧
      Releases granted released ∧
      ((∃ c e, granted ++ [c] <+: openings m.config.toSettings ∧ m.refusal? c = some e ∧
          during m body = (.error e, {}, m.noting (granted ++ c :: released))) ∨
        granted = openings m.config.toSettings ∧ ∃ result ended,
          body m.world.firstPage (m.noting granted) = (result, ended) ∧
          during m body = (result, {}, ended.noting released)) := by
  rcases openAll_cases {} m (openings_silent m.config.toSettings) with
    ⟨granted, c, rest, e, hsplit, hgranted, hrefused, hopen⟩ | ⟨hgranted, hopen⟩
  · rw [← start_eq] at hopen
    refine ⟨granted, _, ⟨c :: rest, hsplit.symm⟩, hgranted, releases_granted m.world granted, .inl
      ⟨c, e, ⟨rest, by simp [hsplit]⟩, hrefused, ?_⟩⟩
    simp [during_of_refused m body hopen]
  · rw [← start_eq] at hopen
    exact ⟨_, _, List.prefix_refl _, hgranted, releases_granted m.world _, .inr ⟨rfl, _, _, rfl,
      during_of_opened m body hopen rfl⟩⟩

end Session
end BrowserScript.Browser
