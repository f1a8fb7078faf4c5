/-
BrowserScript.Proofs.Run.Secrecy — no secret shows in an outcome.

An action is told the value of a secret when one of its parameters refers to it. All it may do with the value
is to type it into a field. So two runs that differ in secrets alone go in step: they end in the same
outcomes, and their requests are the same but for the texts typed.

* `inStep_builtIn`: every built-in action goes in step with itself on the same parameters.
* `alike_runOne`: so does one line.
* `sameReferencesIn_of_start`: the references that a run looks up can be judged before it begins.

Main statement: `run_keeps_secrets`, by induction over the lines.
-/
import BrowserScript.Proofs.Run.Preserved
import BrowserScript.Proofs.SignIn.TwoAttempts

namespace BrowserScript

open Browser

/-- Every field hides what is typed into it. -/
def everyField : String → Bool := fun _ => true

/-- Credentials are hidden wholly where every field hides what is typed into it. -/
theorem SignIn.Credentials.Alike.hiddenBy {c c' : Credentials} (h : c.Alike c') :
    c.HiddenBy everyField c' where
  alike := h
  others := .inl fun _ => rfl
  password _ _ := rfl

/-! ## §1 Actions -/

namespace Vocabulary

variable (s : Settings) (params : List String)

theorem inStep_param (i : Nat) :
    Script.InStep everyField Eq (param params i) (param params i) :=
  inStep_composed (composed_param params (.any (i + 1)) (Nat.lt_succ_self i))

theorem inStep_typeInto :
    Script.InStep everyField Eq (typeInto s params) (typeInto s params) := by
  refine .bind (inStep_composed (composed_target s params (.any 1) (by decide))) ?_
  rintro selector _ rfl
  refine .bind (inStep_param params 1) ?_
  rintro parameter _ rfl
  refine .bind (.secretly parameter) fun value value' _ => ?_
  exact .bind (.page (.click selector)) fun _ _ _ => .bind (.typed (.inl rfl)) fun _ _ _ => .done rfl

theorem inStep_credentials :
    Script.InStep everyField SignIn.Credentials.Alike (credentials params) (credentials params) := by
  refine .bind (inStep_param params 0) ?_
  rintro name _ rfl
  refine .bind (.secretly name) fun username username' _ => .bind (inStep_param params 1) ?_
  rintro secret _ rfl
  refine .bind (.secretly secret) fun password password' _ => ?_
  dsimp only
  split
  · rename_i name _
    split
    · exact .done rfl
    · have hfull : Script.InStep everyField (fun full full' : Option String => ∃ v w, full = some v ∧
          full' = some w ∧ (v = "" ↔ w = "")) (some <$> Script.secret name) (some <$> Script.secret name) :=
        .bind (.secretly name) fun v w hvw => .done ⟨v, w, rfl, rfl, hvw⟩
      refine hfull.bind ?_
      rintro _ _ ⟨v, w, rfl, rfl, hvw⟩
      exact .done (SignIn.alike_of_empty_iff hvw)
  · exact .done rfl

theorem inStep_signInAs (intent : Option SignIn.Intent) :
    Script.InStep everyField Eq (signInAs intent s params) (signInAs intent s params) := by
  rw [signInAs_eq]
  refine (inStep_credentials params).bind fun c c' hc => ?_
  refine (SignIn.inStep_signIn _ hc.hiddenBy intent _).bind ?_
  rintro ⟨r, a⟩ _ rfl
  cases r with
  | ok _ => exact .done rfl
  | error e => exact .fail e

/-- Every built-in action goes in step with itself: what it is told about secrets is only typed. -/
theorem inStep_builtIn {spec : Instruction.ActionSpec Handler} (hspec : spec ∈ builtInSpecs) :
    Script.InStep everyField Eq (spec.handler s params) (spec.handler s params) := by
  rcases composed_builtIn spec hspec with hpublic | ⟨-, htype | hsubmit | ⟨intent, hsign⟩⟩
  · exact inStep_composed (hpublic _ s params (.any _))
  · rw [htype]
    refine (inStep_typeInto s params).bind ?_
    rintro selector _ rfl
    exact .done rfl
  · rw [hsubmit]
    refine (inStep_typeInto s params).bind ?_
    rintro selector _ rfl
    exact .bind (.page (.press selector "Enter")) fun _ _ _ => .done rfl
  · rw [hsign]
    exact inStep_signInAs s params intent

end Vocabulary

/-! ## §2 Lines -/

namespace Run

open Instruction Vocabulary

variable {m n : Machine}

theorem alike_sync (h : m.Alike everyField n) : (sync m).Alike everyField (sync n) where
  settings := h.settings
  tab := by
    show m.tab.sync m.world = n.tab.sync n.world
    rw [h.tab, h.world.state, World.sync_withLog]
  world := h.world
  disk := h.disk

theorem later_sync (m : Machine) : m.Later (sync m) := ⟨rfl, .refl _⟩

theorem alike_settleNewPage (h : m.Alike everyField n) :
    (settleNewPage m).1 = (settleNewPage n).1 ∧
      (settleNewPage m).2.Alike everyField (settleNewPage n).2 := by
  unfold settleNewPage
  rw [h.settings]
  split
  · exact ⟨rfl, h⟩
  · exact ⟨rfl, alike_sync h⟩
  · rename_i seconds _
    obtain ⟨hreply, hmachines⟩ := h.askContext (.sleep seconds)
    generalize m.askContext (.sleep seconds) = x, n.askContext (.sleep seconds) = y
      at hreply hmachines ⊢
    rcases x with ⟨r, m₁⟩
    rcases y with ⟨r', n₁⟩
    dsimp only at hreply
    subst hreply
    cases r with
    | ok _ => exact ⟨rfl, alike_sync hmachines⟩
    | error e => exact ⟨rfl, hmachines⟩

variable {reading : Registry Handler} {marker : String}

/-- At every line of two runs, where an action asks for a secret in both, both are told it or both are refused
in the same way. -/
def SameReferencesIn (r : Runner) : Machine → Machine → List String → Prop
  | _, _, [] => True
  | m, n, line :: rest =>
    (∀ a params, Asks r line a params → SameReferences (exchanges m a params) (exchanges n a params)) ∧
      ∀ o, (r.runOne m line).1 = .ok o → SameReferencesIn r (r.runOne m line).2 (r.runOne n line).2 rest

/-- A built-in action on machines that are alike. -/
theorem inStep_handler {a : Action Handler} {key : String}
    (hlookup : frozenVocabulary.lookup key = some a) (h : m.Alike everyField n) (params : List String) :
    Script.InStep everyField Eq (a.handler m.config.toSettings params)
      (a.handler n.config.toSettings params) := by
  obtain ⟨spec, hspec, hhandler⟩ := exists_spec hlookup
  rw [← h.settings, hhandler]
  exact inStep_builtIn _ params hspec

/-- The action is carried out on both. -/
theorem alike_handled {a : Action Handler} {params : List String} {key : String}
    (hlookup : frozenVocabulary.lookup key = some a) (h : m.Alike everyField n)
    (hrefs : SameReferences (exchanges m a params) (exchanges n a params)) :
    (handled m a params).1 = (handled n a params).1 ∧
      (handled m a params).2.Alike everyField (handled n a params).2 := by
  have hstep := inStep_handler hlookup h params
  have hsync := alike_sync h
  unfold exchanges at hrefs
  unfold handled
  rw [← hsync.tab] at hrefs ⊢
  obtain ⟨hresult, hmachines⟩ := hstep.run hsync _ hrefs
  exact ⟨hresult.eq, hmachines⟩

/-- Where references are steady, the action looks the same ones up. -/
theorem sameReferences_exchanges {a : Action Handler} {params : List String} {key : String}
    (hlookup : frozenVocabulary.lookup key = some a) (h : m.Alike everyField n) (hsteady : m.Steady n) :
    SameReferences (exchanges m a params) (exchanges n a params) := by
  have hstep := inStep_handler hlookup h params
  have hsync := alike_sync h
  unfold exchanges
  rw [← hsync.tab]
  exact hstep.sameReferences hsync (hsteady.after (later_sync m) (later_sync n)) _

theorem alike_perform {a : Action Handler} {params : List String} {key : String} (text : String)
    (hlookup : frozenVocabulary.lookup key = some a) (h : m.Alike everyField n)
    (hrefs : SameReferences (exchanges m a params) (exchanges n a params)) :
    (perform (sync m) text a params).1 = (perform (sync n) text a params).1 ∧
      (perform (sync m) text a params).2.Alike everyField (perform (sync n) text a params).2 := by
  obtain ⟨hresult, hmachines⟩ := alike_handled hlookup h hrefs
  rw [perform_eq, perform_eq]
  generalize handled m a params = x, handled n a params = y at hresult hmachines ⊢
  rcases x with ⟨r, m₁⟩
  rcases y with ⟨r', n₁⟩
  dsimp only at hresult hmachines
  subst hresult
  cases r with
  | error e => exact ⟨rfl, hmachines⟩
  | ok value =>
    dsimp only
    split
    · obtain ⟨hpause, hpaused⟩ := alike_settleNewPage hmachines
      generalize settleNewPage m₁ = x, settleNewPage n₁ = y at hpause hpaused ⊢
      rcases x with ⟨r, m₂⟩
      rcases y with ⟨r', n₂⟩
      dsimp only at hpause hpaused
      subst hpause
      cases r with
      | ok _ => exact ⟨rfl, hpaused⟩
      | error e => exact ⟨rfl, hpaused⟩
    · exact ⟨rfl, hmachines⟩

/-- One line on machines that are alike. -/
theorem alike_runOne {line : String} (h : m.Alike everyField n)
    (hrefs : ∀ a params, Asks ⟨frozenVocabulary, reading, marker⟩ line a params →
      SameReferences (exchanges m a params) (exchanges n a params)) :
    (Runner.runOne ⟨frozenVocabulary, reading, marker⟩ m line).1
        = (Runner.runOne ⟨frozenVocabulary, reading, marker⟩ n line).1 ∧
      (Runner.runOne ⟨frozenVocabulary, reading, marker⟩ m line).2.Alike everyField
        (Runner.runOne ⟨frozenVocabulary, reading, marker⟩ n line).2 := by
  cases hskip : ignorable marker (Text.trim line) with
  | true =>
    simp only [Runner.runOne, hskip, if_true]
    exact ⟨trivial, h⟩
  | false =>
    cases hparse : parse reading marker (Text.trim line) with
    | error failure =>
      simp only [Runner.runOne, hskip, hparse, Bool.false_eq_true, if_false]
      exact ⟨trivial, alike_sync h⟩
    | ok request =>
      cases hlookup : frozenVocabulary.lookup request.key with
      | none =>
        simp only [Runner.runOne, hskip, hparse, hlookup, Bool.false_eq_true, if_false]
        exact ⟨trivial, alike_sync h⟩
      | some a =>
        have hasks : Asks ⟨frozenVocabulary, reading, marker⟩ line a request.params :=
          ⟨hskip, request.key, hparse, hlookup⟩
        rw [runOne_of_asks hasks, runOne_of_asks hasks]
        exact alike_perform _ hlookup h (hrefs a request.params hasks)

/-- Two runs on machines that are alike, at whose lines the same references can be resolved. -/
theorem alike_run {lines : List String} (h : m.Alike everyField n)
    (hrefs : SameReferencesIn ⟨frozenVocabulary, reading, marker⟩ m n lines) :
    (Runner.run ⟨frozenVocabulary, reading, marker⟩ m lines).1
        = (Runner.run ⟨frozenVocabulary, reading, marker⟩ n lines).1 ∧
      (Runner.run ⟨frozenVocabulary, reading, marker⟩ m lines).2.Alike everyField
        (Runner.run ⟨frozenVocabulary, reading, marker⟩ n lines).2 := by
  induction lines generalizing m n with
  | nil => exact ⟨rfl, h⟩
  | cons line rest ih =>
    obtain ⟨hline, hrest⟩ := hrefs
    obtain ⟨houtcome, hmachines⟩ := alike_runOne h hline
    rcases hm : Runner.runOne ⟨frozenVocabulary, reading, marker⟩ m line with ⟨result, m₁⟩
    rcases hn : Runner.runOne ⟨frozenVocabulary, reading, marker⟩ n line with ⟨result', n₁⟩
    rw [hm, hn] at houtcome hmachines hrest
    dsimp only at houtcome hmachines hrest
    subst houtcome
    cases result with
    | error e =>
      rw [run_cons_of_error hm, run_cons_of_error hn]
      exact ⟨rfl, hmachines⟩
    | ok o =>
      obtain ⟨houtcomes, hend⟩ := ih hmachines (hrest o rfl)
      rw [run_cons_of_ok hm, run_cons_of_ok hn]
      exact ⟨congrArg (Except.map (o :: ·)) houtcomes, hend⟩

/-! ## §3 References at the start -/

/-- A run leaves the configuration as it is, and adds at most directories to the disk. -/
theorem preserved_later : Preserved Machine.Later where
  refl := Machine.Later.refl
  trans := Machine.Later.trans
  sleep _ _ := ⟨rfl, .refl _⟩
  sync := later_sync
  answer := Machine.later_answer

/-- Where references are steady, they are the same at every line. -/
theorem sameReferencesIn_of_steady {lines : List String} (h : m.Alike everyField n)
    (hsteady : m.Steady n) : SameReferencesIn ⟨frozenVocabulary, reading, marker⟩ m n lines := by
  induction lines generalizing m n with
  | nil => trivial
  | cons line rest ih =>
    have hline : ∀ a params, Asks ⟨frozenVocabulary, reading, marker⟩ line a params →
        SameReferences (exchanges m a params) (exchanges n a params) := by
      intro a params hasks
      obtain ⟨key, -, hlookup⟩ := hasks.request
      exact sameReferences_exchanges hlookup h hsteady
    refine ⟨hline, fun _ _ => ?_⟩
    exact ih (alike_runOne h hline).2
      (hsteady.after (preserved_later.runOne _ m line) (preserved_later.runOne _ n line))

/-- On sound disks, with no double dots in the way of the program and of the project, it is enough that every
reference can be resolved by both at the start, or is refused in the same way: the directories that a run
makes do not change that. -/
theorem sameReferencesIn_of_start {lines : List String} (h : m.Alike everyField n) (hr : m.disk.Rooted)
    (hdots : ".." ∉ m.disk.current)
    (hproject : ".." ∉ (m.disk.absolute (m.config.projectDir.child "config.yaml")).names)
    (hstart : ∀ parameter,
      BothResolve (resolveSecret m.disk (some m.config.projectDir) m.config.secrets parameter)
        (resolveSecret n.disk (some n.config.projectDir) n.config.secrets parameter)) :
    SameReferencesIn ⟨frozenVocabulary, reading, marker⟩ m n lines :=
  sameReferencesIn_of_steady h (h.steady hr hdots hproject hstart)

/-! ## §4 Two runs -/

/-- Two runs on machines that differ in secrets alone end in the same outcomes, or fail in the same way, and
make the same requests, but for the texts that are typed into fields, as long as every reference to a secret
that they look up can be resolved in both or is refused in the same way. -/
theorem run_keeps_secrets {lines : List String} (h : m.Alike everyField n)
    (hrefs : SameReferencesIn ⟨frozenVocabulary, reading, marker⟩ m n lines) :
    (Runner.run ⟨frozenVocabulary, reading, marker⟩ m lines).1
        = (Runner.run ⟨frozenVocabulary, reading, marker⟩ n lines).1 ∧
      (Runner.run ⟨frozenVocabulary, reading, marker⟩ m lines).2.world.log.map
          (Entry.concealed everyField)
        = (Runner.run ⟨frozenVocabulary, reading, marker⟩ n lines).2.world.log.map
          (Entry.concealed everyField) := by
  obtain ⟨houtcomes, hmachines⟩ := alike_run h hrefs
  exact ⟨houtcomes, hmachines.world.log⟩

/-- The action that types. -/
def typing : Action Handler := (frozenVocabulary.lookup "type").get (by decide +kernel)

theorem typing_handler : typing.handler = typeText := by rfl

theorem asks_typing :
    Asks (Runner.of frozenVocabulary {}) "type #q, env:TOKEN" typing ["#q", "env:TOKEN"] :=
  asks_of_parse (by decide +kernel) (by decide +kernel) (Option.some_get _).symm

/-- A program in whose environment there is a secret, and a page with one field. -/
def keeping (secret : String) : Machine where
  disk := { entries := [], current := [], environment := [("TOKEN", secret)] }
  config := {}
  world := { pages := [{ name := "main", elements := [("#q", {})] }], context := ["main"] }
  tab := .on "main" true

theorem alike_keeping (secret secret' : String) : (keeping secret).Alike everyField (keeping secret') where
  settings := rfl
  tab := rfl
  world := ⟨rfl, rfl⟩
  disk := ⟨rfl, rfl, fun _ => .refl _⟩

theorem exchanges_ada : exchanges (keeping "ada") typing ["#q", "env:TOKEN"]
    = [⟨.page (.probe "#q" 300), .ok {}⟩, ⟨.secret "env:TOKEN", .ok "ada"⟩, ⟨.page (.click "#q"), .ok ()⟩,
      ⟨.page (.fill "#q" "ada"), .ok ()⟩] := by
  unfold exchanges
  rw [typing_handler]
  rfl

theorem exchanges_bob : exchanges (keeping "bob") typing ["#q", "env:TOKEN"]
    = [⟨.page (.probe "#q" 300), .ok {}⟩, ⟨.secret "env:TOKEN", .ok "bob"⟩, ⟨.page (.click "#q"), .ok ()⟩,
      ⟨.page (.fill "#q" "bob"), .ok ()⟩] := by
  unfold exchanges
  rw [typing_handler]
  rfl

theorem sameReferencesIn_keeping : SameReferencesIn (Runner.of frozenVocabulary {}) (keeping "ada")
    (keeping "bob") ["type #q, env:TOKEN"] := by
  refine ⟨?_, fun _ _ => trivial⟩
  intro a params hasks
  obtain ⟨rfl, rfl⟩ := hasks.unique asks_typing
  rw [exchanges_ada, exchanges_bob]
  exact .cons_other rfl (.cons_secret (.ok trivial) (.cons_other rfl (.cons_other rfl .nil)))

/-- Two secrets that are typed. -/
theorem run_keeps_secrets_typed :
    (keeping "ada").Alike everyField (keeping "bob") ∧
      exchanges (keeping "ada") typing ["#q", "env:TOKEN"]
        ≠ exchanges (keeping "bob") typing ["#q", "env:TOKEN"] ∧
      ((Runner.of frozenVocabulary {}).run (keeping "ada") ["type #q, env:TOKEN"]).1
        = ((Runner.of frozenVocabulary {}).run (keeping "bob") ["type #q, env:TOKEN"]).1 ∧
      ((Runner.of frozenVocabulary {}).run (keeping "ada") ["type #q, env:TOKEN"]).2.world.log.map
          (Entry.concealed everyField)
        = ((Runner.of frozenVocabulary {}).run (keeping "bob") ["type #q, env:TOKEN"]).2.world.log.map
          (Entry.concealed everyField) := by
  refine ⟨alike_keeping "ada" "bob", ?_,
    run_keeps_secrets (alike_keeping "ada" "bob") sameReferencesIn_keeping⟩
  rw [exchanges_ada, exchanges_bob]
  simp

end Run
end BrowserScript
