/-
BrowserScript.Proofs.Browser.TwoRuns — two runs that differ in secrets.

Two machines are alike when all that a script is told about them is the same: the settings, the active page,
the browser up to what was typed into some fields, and the names on the disk. The values of secrets are not
among this. Two scripts go in step when they ask the same questions one after the other and differ only in
what they type into these fields and in what they do with a secret.

* `Machine.Alike.answer`: any question but that for a secret is answered alike, and the machines stay alike;
  `Machine.Alike.fill` is the question that may differ.
* `Script.InStep`: scripts in step, with one rule for each way in which scripts are composed.
* `SameReferences`: at the places where two runs ask for a secret, both are told one or both are refused in
  the same way.
* `Machine.Steady`: references that stay so while directories are made. `Machine.Alike.steady` finds this out
  at the start, and `Script.InStep.sameReferences` is what it is for.

Main statement: `Script.InStep.run`. Scripts in step, run on machines that are alike, end alike.
-/
import BrowserScript.Proofs.Browser.Transcript
import BrowserScript.Proofs.Settings.References
import BrowserScript.Proofs.Vocabulary.Composition

namespace BrowserScript.Browser

/-! ## §1 The browser -/

/-- An entry of the log in which the texts typed into some fields cannot be read. -/
def Entry.concealed (hides : String → Bool) : Entry → Entry
  | .page name (.fill selector value) => .page name (.fill selector (if hides selector then "" else value))
  | entry => entry

namespace World

/-- The browser with another log. -/
def withLog (w : World) (log : List Entry) : World := { w with log := log }

theorem apply_withLog (w : World) (log : List Entry) (here : String) (e : Effect) :
    (w.withLog log).apply here e = ((w.apply here e).1.withLog log, (w.apply here e).2) := by
  cases e with
  | openPage page announced =>
    refine Prod.ext ?_ rfl
    show (if w.context.contains (page.getD here) = true then _ else _)
      = (if w.context.contains (page.getD here) = true then _ else _ : World).withLog log
    split <;> rfl
  | _ => rfl

theorem applyAll_withLog (w : World) (log : List Entry) (here : String) (es : List Effect) :
    (w.withLog log).applyAll here es = ((w.applyAll here es).1.withLog log, (w.applyAll here es).2) := by
  induction es generalizing w with
  | nil => rfl
  | cons e rest ih => simp only [applyAll, apply_withLog, ih]

theorem after_withLog (w : World) (log : List Entry) (name : String) (c : Call) :
    (w.withLog log).after name c = ((w.after name c).1.withLog log, (w.after name c).2) := by
  unfold after
  split
  · exact applyAll_withLog _ _ _ _
  · exact applyAll_withLog _ _ _ _
  · rfl
  · rfl

theorem afterContext_withLog (w : World) (log : List Entry) (c : ContextCall) :
    (w.withLog log).afterContext c = ((w.afterContext c).1.withLog log, (w.afterContext c).2) := by
  cases c with
  | sleep seconds => exact applyAll_withLog ({ w with onSleep := [] } : World) _ _ _
  | _ => rfl

/-- The log is written, and nothing else depends on it. -/
theorem ask_withLog (w : World) (log : List Entry) (name : String) (c : Call) :
    (w.withLog log).ask name c
      = ((w.ask name c).1, (w.ask name c).2.1.withLog (log ++ [.page name c]), (w.ask name c).2.2) := by
  have hpage : ∀ v : World, ∀ log, (v.withLog log).page name = v.page name := fun _ _ => rfl
  have hlogged : ∀ v : World, v.logged (.page name c) = v.withLog (v.log ++ [.page name c]) :=
    fun _ => rfl
  unfold ask
  simp only [hlogged, hpage]
  split
  · rfl
  · split
    · rfl
    · simp only [after_withLog]
      rfl

theorem askContext_withLog (w : World) (log : List Entry) (c : ContextCall) :
    (w.withLog log).askContext c
      = ((w.askContext c).1, (w.askContext c).2.1.withLog (log ++ [.context c]), (w.askContext c).2.2) := by
  have hplan : ∀ v : World, ∀ log, (v.withLog log).plan = v.plan := fun _ _ => rfl
  have hlogged : ∀ v : World, v.logged (.context c) = v.withLog (v.log ++ [.context c]) :=
    fun _ => rfl
  unfold askContext
  simp only [hlogged, hplan]
  split
  · rfl
  · simp only [afterContext_withLog]
    rfl

theorem lastOpen_withLog (w : World) (log : List Entry) (current : String) (pages : List String) :
    ActivePage.lastOpen (w.withLog log) current pages = ActivePage.lastOpen w current pages := by
  induction pages generalizing current with
  | nil => rfl
  | cons page rest ih => exact ih _

theorem sync_withLog (w : World) (log : List Entry) (tab : ActivePage) :
    tab.sync (w.withLog log) = tab.sync w := by
  unfold ActivePage.sync
  rw [lastOpen_withLog]
  rfl

/-- What is typed into a field shows in the log alone. -/
theorem ask_fill (w : World) (name selector value value' : String) :
    w.ask name (.fill selector value')
      = ((w.ask name (.fill selector value)).1,
          (w.ask name (.fill selector value)).2.1.withLog (w.log ++ [.page name (.fill selector value')]),
          (w.ask name (.fill selector value)).2.2) := by
  have hkeys : Call.planKeys (.fill selector value') = Call.planKeys (.fill selector value) := rfl
  have hanswer : ∀ p : Page, p.answer (.fill selector value') = p.answer (.fill selector value) :=
    fun _ => rfl
  unfold ask
  have hlogged : ∀ c, (w.logged (.page name c)).page name = w.page name := fun _ => rfl
  simp only [hkeys, hlogged, hanswer]
  split
  · rfl
  · split
    · rfl
    · rfl

/-- Two browsers that differ at most in what was typed into some fields. -/
structure SameButTyped (hides : String → Bool) (w v : World) : Prop where
  state : v = w.withLog v.log
  log : w.log.map (Entry.concealed hides) = v.log.map (Entry.concealed hides)

namespace SameButTyped

variable {hides : String → Bool} {w v : World}

theorem ask (h : SameButTyped hides w v) (name : String) (c : Call) :
    (v.ask name c).1 = (w.ask name c).1 ∧ (v.ask name c).2.2 = (w.ask name c).2.2 ∧
      SameButTyped hides (w.ask name c).2.1 (v.ask name c).2.1 := by
  obtain ⟨hstate, hlog⟩ := h
  generalize v.log = log at hstate hlog
  subst hstate
  rw [ask_withLog]
  refine ⟨rfl, rfl, rfl, ?_⟩
  rw [ask_log, List.map_append, hlog]
  exact List.map_append.symm

theorem askContext (h : SameButTyped hides w v) (c : ContextCall) :
    (v.askContext c).1 = (w.askContext c).1 ∧ (v.askContext c).2.2 = (w.askContext c).2.2 ∧
      SameButTyped hides (w.askContext c).2.1 (v.askContext c).2.1 := by
  obtain ⟨hstate, hlog⟩ := h
  generalize v.log = log at hstate hlog
  subst hstate
  rw [askContext_withLog]
  refine ⟨rfl, rfl, rfl, ?_⟩
  rw [askContext_log, List.map_append, hlog]
  exact List.map_append.symm

/-- Different texts are typed into a field that hides them. -/
theorem fill (h : SameButTyped hides w v) (name selector : String) {value value' : String}
    (hvalue : hides selector = true ∨ value = value') :
    (v.ask name (.fill selector value')).1 = (w.ask name (.fill selector value)).1 ∧
      (v.ask name (.fill selector value')).2.2 = (w.ask name (.fill selector value)).2.2 ∧
      SameButTyped hides (w.ask name (.fill selector value)).2.1
        (v.ask name (.fill selector value')).2.1 := by
  obtain ⟨hstate, hlog⟩ := h
  generalize v.log = log at hstate hlog
  subst hstate
  rw [ask_withLog, ask_fill w name selector value value']
  refine ⟨rfl, rfl, rfl, ?_⟩
  have hentry : Entry.concealed hides (.page name (.fill selector value))
      = Entry.concealed hides (.page name (.fill selector value')) := by
    rcases hvalue with hhides | rfl
    · simp only [Entry.concealed, hhides, if_true]
    · rfl
  show _ = (log ++ [Entry.page name (.fill selector value')]).map (Entry.concealed hides)
  rw [ask_log, List.map_append, List.map_append, hlog, List.map_singleton, hentry]
  rfl

end SameButTyped
end World

/-! ## §2 Machines -/

/-- Two machines of which a script is told the same, secrets apart. -/
structure Machine.Alike (hides : String → Bool) (m n : Machine) : Prop where
  settings : m.config.toSettings = n.config.toSettings
  tab : m.tab = n.tab
  world : m.world.SameButTyped hides n.world
  disk : m.disk.SameNames n.disk

namespace Machine.Alike

variable {hides : String → Bool} {m n : Machine}

theorem refl (m : Machine) : m.Alike hides m :=
  ⟨rfl, rfl, ⟨rfl, rfl⟩, ⟨rfl, rfl, fun _ => .refl _⟩⟩

theorem moved (h : m.Alike hides n) {w v : World} {pages pages' : List String}
    (hworld : w.SameButTyped hides v) (hpages : pages' = pages) :
    (m.moved w pages).Alike hides (n.moved v pages') where
  settings := h.settings
  tab := by
    show m.tab.hear pages = n.tab.hear pages'
    rw [h.tab, hpages]
  world := hworld
  disk := h.disk

theorem askPage (h : m.Alike hides n) (page : String) (c : Call) :
    (m.askPage page c).1 = (n.askPage page c).1 ∧
      (m.askPage page c).2.Alike hides (n.askPage page c).2 := by
  obtain ⟨hreply, hannounced, hworld⟩ := h.world.ask page c
  exact ⟨hreply.symm, h.moved hworld hannounced⟩

theorem askContext (h : m.Alike hides n) (c : ContextCall) :
    (m.askContext c).1 = (n.askContext c).1 ∧ (m.askContext c).2.Alike hides (n.askContext c).2 := by
  obtain ⟨hreply, hannounced, hworld⟩ := h.world.askContext c
  exact ⟨hreply.symm, h.moved hworld hannounced⟩

/-- Different texts are typed into a field that hides them. -/
theorem fill (h : m.Alike hides n) (page selector : String) {value value' : String}
    (hvalue : hides selector = true ∨ value = value') :
    (m.askPage page (.fill selector value)).1 = (n.askPage page (.fill selector value')).1 ∧
      (m.askPage page (.fill selector value)).2.Alike hides
        (n.askPage page (.fill selector value')).2 := by
  obtain ⟨hreply, hannounced, hworld⟩ := h.world.fill page selector hvalue
  exact ⟨hreply.symm, h.moved hworld hannounced⟩

/-- A question that is not about a secret is answered alike. -/
theorem answer (h : m.Alike hides n) (page : String) {q : Question} (hq : q.tellsSecret = false) :
    (m.answer page q).1 = (n.answer page q).1 ∧ (m.answer page q).2.Alike hides (n.answer page q).2 := by
  cases q with
  | page call => exact h.askPage page call
  | url =>
    refine ⟨?_, h⟩
    show Except.ok (m.world.page page).url = .ok (n.world.page page).url
    rw [h.world.state]
    rfl
  | cookies =>
    obtain ⟨hreply, hmachines⟩ := h.askContext .cookies
    have hcookies : (m.askContext .cookies).2.world.cookies = (n.askContext .cookies).2.world.cookies := by
      rw [hmachines.world.state]
      rfl
    simp only [Machine.answer]
    revert hreply hmachines hcookies
    rcases m.askContext .cookies with ⟨r, m₁⟩
    rcases n.askContext .cookies with ⟨r', n₁⟩
    rintro rfl hmachines hcookies
    cases r with
    | ok _ => exact ⟨congrArg Except.ok hcookies, hmachines⟩
    | error e => exact ⟨rfl, hmachines⟩
  | addCookies added => exact h.askContext _
  | secret parameter => cases hq
  | isFile path =>
    simp only [Machine.answer]
    rw [h.disk.isFile_eq]
    exact ⟨rfl, h⟩
  | makeDirs path =>
    have hmade := h.disk.makeDirs path
    simp only [Machine.answer]
    generalize m.disk.makeDirs path = made, n.disk.makeDirs path = made' at hmade ⊢
    cases hmade with
    | ok hmade => exact ⟨rfl, ⟨h.settings, h.tab, h.world, hmade⟩⟩
    | error fault => exact ⟨rfl, h⟩
  | expandHome path =>
    simp only [Machine.answer]
    rw [h.disk.home]
    split
    · exact ⟨rfl, h⟩
    · exact ⟨rfl, h⟩
  | clock => exact ⟨rfl, h⟩

end Machine.Alike

/-! ## §3 Scripts -/

/-- Scripts that ask the same questions in the same order, whatever they are told, and end in results that
`R` relates or in the same failure. They may differ in what they type into fields that hide it and in what
they do with a secret, of which they share only whether it is empty. -/
inductive Script.InStep (hides : String → Bool) {α β : Type} (R : α → β → Prop) :
    Script α → Script β → Prop
  | done {a : α} {b : β} (h : R a b) : InStep hides R (.done a) (.done b)
  | fail (e : Failure) : InStep hides R (.fail e) (.fail e)
  | ask {q : Question} {f : Except Failure q.Reply → Script α} {g : Except Failure q.Reply → Script β}
      (hq : q.tellsSecret = false) (h : ∀ reply, InStep hides R (f reply) (g reply)) :
      InStep hides R (.ask q f) (.ask q g)
  | fill {selector value value' : String} {f : Except Failure Unit → Script α}
      {g : Except Failure Unit → Script β} (hvalue : hides selector = true ∨ value = value')
      (h : ∀ reply, InStep hides R (f reply) (g reply)) :
      InStep hides R (.ask (.page (.fill selector value)) f) (.ask (.page (.fill selector value')) g)
  | secret {parameter : String} {f : Except Failure String → Script α}
      {g : Except Failure String → Script β} (herror : ∀ e, InStep hides R (f (.error e)) (g (.error e)))
      (hok : ∀ v w, (v = "" ↔ w = "") → InStep hides R (f (.ok v)) (g (.ok w))) :
      InStep hides R (.ask (.secret parameter) f) (.ask (.secret parameter) g)

namespace Script.InStep

variable {hides : String → Bool} {α β γ δ : Type} {R : α → β → Prop} {S : γ → δ → Prop}
  {s : Script α} {t : Script β}

theorem bind {f : α → Script γ} {g : β → Script δ} (h : InStep hides R s t)
    (hfg : ∀ a b, R a b → InStep hides S (f a) (g b)) : InStep hides S (s >>= f) (t >>= g) := by
  induction h with
  | done h => exact hfg _ _ h
  | fail e => exact .fail e
  | ask hq _ ih => exact .ask hq ih
  | fill hvalue _ ih => exact .fill hvalue ih
  | secret _ _ iherror ihok => exact .secret iherror ihok

theorem attempt (h : InStep hides R s t) : InStep hides (Both R) s.attempt t.attempt := by
  induction h with
  | done h => exact .done (.ok h)
  | fail e => exact .done (.error e)
  | ask hq _ ih => exact .ask hq ih
  | fill hvalue _ ih => exact .fill hvalue ih
  | secret _ _ iherror ihok => exact .secret iherror ihok

theorem rescue {handle : Failure → Script α} {handle' : Failure → Script β} (h : InStep hides R s t)
    (hhandle : ∀ e, InStep hides R (handle e) (handle' e)) :
    InStep hides R (s.rescue handle) (t.rescue handle') := by
  refine bind h.attempt ?_
  intro a b hab
  cases hab with
  | ok h => exact .done h
  | error e => exact hhandle e

theorem onRefusal {handle : Failure → Script α} {handle' : Failure → Script β}
    (h : InStep hides R s t) (hhandle : ∀ e, InStep hides R (handle e) (handle' e)) :
    InStep hides R (s.onRefusal handle) (t.onRefusal handle') := by
  refine h.rescue ?_
  intro e
  split
  · split
    · exact .fail _
    · exact hhandle e
  · exact .fail _

theorem ofExcept (r : Except Failure α) : InStep hides Eq (Script.ofExcept r) (Script.ofExcept r) := by
  cases r with
  | ok a => exact .done rfl
  | error e => exact .fail e

theorem query {q : Question} (hq : q.tellsSecret = false) :
    InStep hides Eq (Script.query q) (Script.query q) :=
  .ask hq ofExcept

theorem page (c : Call) : InStep hides Eq (Script.page c) (Script.page c) :=
  .ask rfl ofExcept

theorem url : InStep hides Eq Script.url Script.url := .ask rfl ofExcept

/-- The same field, and what is typed into it. -/
theorem typed {selector value value' : String} (hvalue : hides selector = true ∨ value = value') :
    InStep hides Eq (Script.page (.fill selector value)) (Script.page (.fill selector value')) :=
  .fill hvalue ofExcept

/-- What holds of the results of one script holds of those of both. -/
theorem gives {P : α → Prop} (h : InStep hides R s t) (hs : s.Gives P) :
    InStep hides (fun a b => R a b ∧ P a) s t := by
  induction h with
  | done h => exact .done ⟨h, hs _ rfl⟩
  | fail e => exact .fail e
  | ask hq _ ih => exact .ask hq fun reply => ih reply (hs reply)
  | fill hvalue _ ih => exact .fill hvalue fun reply => ih reply (hs reply)
  | secret _ _ iherror ihok =>
    exact .secret (fun e => iherror e (hs (.error e))) (fun v w hvw => ihok v w hvw (hs (.ok v)))

/-- A secret and another one. -/
theorem secretly (parameter : String) :
    InStep hides (fun v w => v = "" ↔ w = "") (Script.secret parameter) (Script.secret parameter) :=
  .secret .fail (fun _ _ h => .done h)

end Script.InStep

/-! ## §4 Runs -/

/-- Wherever both runs ask what a parameter stands for, both are told, or both are refused in the same
way. -/
def SameReferences (t u : List Exchange) : Prop :=
  ∀ parameter r r', ((⟨.secret parameter, r⟩, ⟨.secret parameter, r'⟩) : Exchange × Exchange) ∈ t.zip u →
    BothResolve r r'

namespace SameReferences

variable {t u : List Exchange} {x y : Exchange}

theorem head {parameter : String} {r r' : Except Failure String}
    (h : SameReferences (⟨.secret parameter, r⟩ :: t) (⟨.secret parameter, r'⟩ :: u)) :
    BothResolve r r' :=
  h parameter r r' List.mem_cons_self

theorem tail (h : SameReferences (x :: t) (y :: u)) : SameReferences t u :=
  fun parameter r r' hmem => h parameter r r' (List.mem_cons_of_mem _ hmem)

theorem nil : SameReferences [] [] := fun _ _ _ hmem => nomatch hmem

theorem cons_other (hx : x.question.tellsSecret = false) (h : SameReferences t u) :
    SameReferences (x :: t) (y :: u) := by
  intro parameter r r' hmem
  rcases List.mem_cons.1 hmem with hfirst | hrest
  · have hquestion := congrArg (fun p => p.1.question.tellsSecret) hfirst
    cases hquestion.trans hx
  · exact h parameter r r' hrest

theorem cons_secret {parameter : String} {r r' : Except Failure String} (hr : BothResolve r r')
    (h : SameReferences t u) :
    SameReferences (⟨.secret parameter, r⟩ :: t) (⟨.secret parameter, r'⟩ :: u) := by
  intro parameter' q q' hmem
  rcases List.mem_cons.1 hmem with hfirst | hrest
  · cases hfirst
    exact hr
  · exact h parameter' q q' hrest

/-- Where no reference is looked up there is nothing to compare. -/
theorem of_asks (h : ∀ x ∈ t, x.question.tellsSecret = false) : SameReferences t u :=
  fun _ _ _ hmem => nomatch h _ (List.of_mem_zip hmem).1

end SameReferences

/-- Scripts in step end alike on machines that are alike, unless a reference tells the machines apart. -/
theorem Script.InStep.run {hides : String → Bool} {α β : Type} {R : α → β → Prop} {s : Script α}
    {t : Script β} (h : InStep hides R s t) {m n : Machine} (hm : m.Alike hides n) (page : String)
    (hrefs : SameReferences (s.transcript m page) (t.transcript n page)) :
    Both R (s.run m page).1 (t.run n page).1 ∧ (s.run m page).2.Alike hides (t.run n page).2 := by
  induction h generalizing m n with
  | done h => exact ⟨.ok h, hm⟩
  | fail e => exact ⟨.error e, hm⟩
  | @ask q f g hq _ ih =>
    obtain ⟨hreply, hm⟩ := hm.answer page hq
    have htail := hrefs.tail
    rw [run_ask, run_ask, ← hreply]
    rw [← hreply] at htail
    exact ih _ hm htail
  | @fill selector value value' f g hvalue _ ih =>
    obtain ⟨hreply, hm⟩ := hm.fill page selector hvalue
    have htail : SameReferences
        ((f (m.askPage page (.fill selector value)).1).transcript _ page)
        ((g (n.askPage page (.fill selector value')).1).transcript _ page) := hrefs.tail
    show Both R ((f (m.askPage page (.fill selector value)).1).run _ page).1
        ((g (n.askPage page (.fill selector value')).1).run _ page).1 ∧
      ((f (m.askPage page (.fill selector value)).1).run _ page).2.Alike hides
        ((g (n.askPage page (.fill selector value')).1).run _ page).2
    rw [← hreply]
    rw [← hreply] at htail
    exact ih _ hm htail
  | @secret parameter f g _ _ iherror ihok =>
    have htail := hrefs.tail
    have hhead := hrefs.head
    rw [run_ask, run_ask]
    simp only [Machine.answer] at hhead htail ⊢
    generalize hr : resolveSecret m.disk (some m.config.projectDir) m.config.secrets parameter = r,
      hr' : resolveSecret n.disk (some n.config.projectDir) n.config.secrets parameter = r'
      at hhead htail ⊢
    cases hhead with
    | error e => exact iherror e hm htail
    | @ok v w _ =>
      have hempty := (resolveSecret_empty hr).trans (resolveSecret_empty hr').symm
      exact ihok v w hempty hm htail

/-! ## §5 References at the start -/

/-- References are resolved by both or refused in the same way, however many directories are made. -/
def Machine.Steady (m n : Machine) : Prop :=
  ∀ (d e : File.Disk), m.disk.Grown d → n.disk.Grown e → d.SameNames e → ∀ parameter,
    BothResolve (resolveSecret d (some m.config.projectDir) m.config.secrets parameter)
      (resolveSecret e (some n.config.projectDir) n.config.secrets parameter)

/-- The configuration stays, and the disk only grows. -/
structure Machine.Later (m m' : Machine) : Prop where
  config : m'.config = m.config
  disk : m.disk.Grown m'.disk

namespace Machine.Later

variable {m m' m'' : Machine}

theorem refl (m : Machine) : Later m m := ⟨rfl, .refl _⟩

theorem trans (h : Later m m') (h' : Later m' m'') : Later m m'' :=
  ⟨h'.config.trans h.config, h.disk.trans h'.disk⟩

end Machine.Later

theorem Machine.Steady.after {m m' n n' : Machine} (h : m.Steady n) (hm : m.Later m') (hn : n.Later n') :
    m'.Steady n' := by
  intro d e hd he hnames parameter
  rw [hm.config, hn.config]
  exact h d e (hm.disk.trans hd) (hn.disk.trans he) hnames parameter

/-- What is so at the start remains so, on sound disks and without double dots in the way of the program and
of the project. -/
theorem Machine.Alike.steady {hides : String → Bool} {m n : Machine} (h : m.Alike hides n)
    (hr : m.disk.Rooted) (hdots : ".." ∉ m.disk.current)
    (hproject : ".." ∉ (m.disk.absolute (m.config.projectDir.child "config.yaml")).names)
    (hstart : ∀ parameter,
      BothResolve (resolveSecret m.disk (some m.config.projectDir) m.config.secrets parameter)
        (resolveSecret n.disk (some n.config.projectDir) n.config.secrets parameter)) : m.Steady n := by
  intro d e hd he hnames parameter
  have hsame : n.config.projectDir = m.config.projectDir := congrArg Settings.projectDir h.settings.symm
  have hparameter := hstart parameter
  rw [hsame] at hparameter ⊢
  exact bothResolve_grown hd he hr (hr.of_sameNames h.disk) hnames h.disk.current hdots hproject hparameter

theorem Machine.later_answer (m : Machine) (page : String) (q : Question) :
    m.Later (m.answer page q).2 := by
  cases q with
  | cookies =>
    have hlater : m.Later (m.askContext .cookies).2 := ⟨rfl, .refl _⟩
    simp only [answer]
    generalize m.askContext .cookies = asked at hlater ⊢
    rcases asked with ⟨_ | _, m₁⟩
    · exact hlater
    · exact hlater
  | makeDirs path =>
    simp only [answer]
    split
    · rename_i hmade
      exact ⟨rfl, File.Disk.makeDirs_grown hmade⟩
    · exact .refl m
  | expandHome path =>
    simp only [answer]
    split
    · exact .refl m
    · exact .refl m
  | _ => exact ⟨rfl, .refl _⟩

/-- Scripts in step look the same references up, where these are steady. -/
theorem Script.InStep.sameReferences {hides : String → Bool} {α β : Type} {R : α → β → Prop}
    {s : Script α} {t : Script β} (h : InStep hides R s t) {m n : Machine} (hm : m.Alike hides n)
    (hsteady : m.Steady n) (page : String) :
    SameReferences (s.transcript m page) (t.transcript n page) := by
  induction h generalizing m n with
  | done h => exact .nil
  | fail e => exact .nil
  | @ask q f g hq _ ih =>
    have hlater := hsteady.after (m.later_answer page q) (n.later_answer page q)
    obtain ⟨hreply, hm⟩ := hm.answer page hq
    refine .cons_other hq ?_
    rw [← hreply]
    exact ih _ hm hlater
  | @fill selector value value' f g hvalue _ ih =>
    have hlater := hsteady.after (m.later_answer page (.page (.fill selector value)))
      (n.later_answer page (.page (.fill selector value')))
    obtain ⟨hreply, hm⟩ := hm.fill page selector hvalue
    refine .cons_other rfl ?_
    show SameReferences ((f (m.askPage page (.fill selector value)).1).transcript _ page)
      ((g (n.askPage page (.fill selector value')).1).transcript _ page)
    rw [← hreply]
    exact ih _ hm hlater
  | @secret parameter f g _ _ iherror ihok =>
    have hboth := hsteady _ _ (.refl _) (.refl _) hm.disk parameter
    refine .cons_secret hboth ?_
    simp only [Machine.answer]
    generalize hr : resolveSecret m.disk (some m.config.projectDir) m.config.secrets parameter = r,
      hr' : resolveSecret n.disk (some n.config.projectDir) n.config.secrets parameter = r' at hboth ⊢
    cases hboth with
    | error e => exact iherror e hm hsteady
    | @ok v w _ =>
      have hempty := (resolveSecret_empty hr).trans (resolveSecret_empty hr').symm
      exact ihok v w hempty hm hsteady

end BrowserScript.Browser
