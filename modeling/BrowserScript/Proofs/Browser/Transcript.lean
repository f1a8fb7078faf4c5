/-
BrowserScript.Proofs.Browser.Transcript — what a script asks and what it is told.

A script talks to its surroundings in questions only, so a run is known by its transcript: the
questions in their order, each with the answer it got.

* `Exchange` is one question with its answer, `Script.transcript` those of a run.
* `Script.run_bind` and `Script.transcript_bind` cut the run of a composed script in two: a statement
  about a long script is put together from statements about its parts, each on the machine that the
  part before it leaves behind.
* `Script.run_log` ties transcripts to the log of the browser: a run adds one entry for each exchange
  that was a request, in the same order, and nothing else.
* `World.ask_reply` and `Machine.askContext_eq_error` say when a request is refused.
-/
import BrowserScript.Browser.Machine

namespace BrowserScript.Browser

/-- A question with its answer. -/
structure Exchange where
  question : Question
  reply : Except Failure question.Reply

namespace Script

variable {α β : Type}

/-- The exchanges of a run. -/
def transcript (m : Machine) (page : String) : Script α → List Exchange
  | .done _ => []
  | .fail _ => []
  | .ask q next =>
    ⟨q, (m.answer page q).1⟩ :: transcript (m.answer page q).2 page (next (m.answer page q).1)

/-! ## §1 Composition -/

@[simp] theorem bind_done (a : α) (f : α → Script β) : (Script.done a >>= f) = f a := rfl
@[simp] theorem bind_fail (e : Failure) (f : α → Script β) : (Script.fail e >>= f) = .fail e := rfl
@[simp] theorem bind_ask (q : Question) (next : Except Failure q.Reply → Script α)
    (f : α → Script β) : (Script.ask q next >>= f) = .ask q (fun reply => next reply >>= f) := rfl
@[simp] theorem pure_eq_done (a : α) : (pure a : Script α) = .done a := rfl

theorem bind_assoc {γ : Type} (s : Script α) (f : α → Script β) (g : β → Script γ) :
    (s >>= f) >>= g = s >>= fun a => f a >>= g := by
  induction s with
  | done a => rfl
  | fail e => rfl
  | ask q next ih => exact congrArg (Script.ask q) (funext ih)

theorem run_done (m : Machine) (page : String) (a : α) :
    (Script.done a).run m page = (.ok a, m) := rfl
theorem run_fail (m : Machine) (page : String) (e : Failure) :
    (Script.fail e : Script α).run m page = (.error e, m) := rfl
theorem run_ask (m : Machine) (page : String) (q : Question)
    (next : Except Failure q.Reply → Script α) :
    (Script.ask q next).run m page
      = (next (m.answer page q).1).run (m.answer page q).2 page := rfl

/-- The second part of a composed script runs on the machine that the first part leaves behind, unless
the first part fails. -/
theorem run_bind (m : Machine) (page : String) (s : Script α) (f : α → Script β) :
    (s >>= f).run m page
      = match s.run m page with
        | (.ok a, m₁) => (f a).run m₁ page
        | (.error e, m₁) => (.error e, m₁) := by
  induction s generalizing m with
  | done a => rfl
  | fail e => rfl
  | ask q next ih => rw [bind_ask, run_ask, run_ask, ih]

/-- The transcript of a composed script is that of its first part, followed by that of the second part
if there is one. -/
theorem transcript_bind (m : Machine) (page : String) (s : Script α) (f : α → Script β) :
    (s >>= f).transcript m page
      = s.transcript m page ++ match s.run m page with
        | (.ok a, m₁) => (f a).transcript m₁ page
        | (.error _, _) => [] := by
  induction s generalizing m with
  | done a => rfl
  | fail e => rfl
  | ask q next ih =>
    rw [bind_ask, run_ask]
    simp only [transcript, List.cons_append]
    rw [ih]

/-- A composed script gives a result exactly when both parts do. -/
theorem run_bind_eq_ok {m m' : Machine} {page : String} {s : Script α} {f : α → Script β} {b : β} :
    (s >>= f).run m page = (.ok b, m') ↔
      ∃ a m₁, s.run m page = (.ok a, m₁) ∧ (f a).run m₁ page = (.ok b, m') := by
  rw [run_bind]
  constructor
  · intro h
    rcases hs : s.run m page with ⟨e | a, m₁⟩
    · rw [hs] at h; cases h
    · rw [hs] at h; exact ⟨a, m₁, rfl, h⟩
  · rintro ⟨a, m₁, hs, h⟩
    rw [hs]
    exact h

/-- A composed script fails exactly when its first part fails, or the second one does after it. -/
theorem run_bind_eq_error {m m' : Machine} {page : String} {s : Script α} {f : α → Script β} {e : Failure} :
    (s >>= f).run m page = (.error e, m') ↔ s.run m page = (.error e, m') ∨
      ∃ a m₁, s.run m page = (.ok a, m₁) ∧ (f a).run m₁ page = (.error e, m') := by
  rw [run_bind]
  rcases s.run m page with ⟨e' | a, m₁⟩
  · simp
  · constructor
    · exact fun h => .inr ⟨a, m₁, rfl, h⟩
    · rintro (h | ⟨_, _, ⟨⟩, h⟩)
      · cases h
      · exact h

/-- A failure becomes a result, and nothing else changes. -/
theorem run_attempt (m : Machine) (page : String) (s : Script α) :
    s.attempt.run m page = (.ok (s.run m page).1, (s.run m page).2) := by
  induction s generalizing m with
  | done a => rfl
  | fail e => rfl
  | ask q next ih => rw [attempt, run_ask, run_ask, ih]

theorem transcript_attempt (m : Machine) (page : String) (s : Script α) :
    s.attempt.transcript m page = s.transcript m page := by
  induction s generalizing m with
  | done a => rfl
  | fail e => rfl
  | ask q next ih => simp only [attempt, transcript, ih]

theorem run_ofExcept (m : Machine) (page : String) (r : Except Failure α) :
    (ofExcept r).run m page = (r, m) := by
  cases r <;> rfl

theorem run_query (m : Machine) (page : String) (q : Question) :
    (query q).run m page = m.answer page q := by
  rw [query, run_ask, run_ofExcept]

end Script

/-! ## §2 The log -/

namespace World

@[simp] theorem update_log (w : World) (name : String) (f : Page → Page) :
    (w.update name f).log = w.log := rfl

theorem apply_log (w : World) (here : String) (e : Effect) : (w.apply here e).1.log = w.log := by
  cases e with
  | openPage page announced =>
    simp only [apply]
    split <;> rfl
  | _ => rfl

theorem applyAll_log (w : World) (here : String) (es : List Effect) :
    (w.applyAll here es).1.log = w.log := by
  induction es generalizing w with
  | nil => rfl
  | cons e rest ih => exact (ih _).trans (apply_log w here e)

theorem after_log (w : World) (name : String) (c : Call) : (w.after name c).1.log = w.log := by
  unfold after
  split
  · exact applyAll_log _ _ _
  · exact applyAll_log _ _ _
  · rfl
  · rfl

/-- A request to a page is written into the log whether or not it is answered. -/
theorem ask_log (w : World) (name : String) (c : Call) :
    (w.ask name c).2.1.log = w.log ++ [.page name c] := by
  unfold ask
  dsimp only
  split
  · rfl
  · split
    · rfl
    · exact after_log _ _ _

theorem afterContext_log (w : World) (c : ContextCall) : (w.afterContext c).1.log = w.log := by
  cases c with
  | sleep seconds => exact applyAll_log _ _ _
  | _ => rfl

theorem askContext_log (w : World) (c : ContextCall) :
    (w.askContext c).2.1.log = w.log ++ [.context c] := by
  unfold askContext
  dsimp only
  split
  · rfl
  · exact afterContext_log _ _

end World

/-- The log entry of an exchange on a page; questions about the address, parameters, files and the time
are no requests to the browser. -/
def Exchange.entry? (page : String) (x : Exchange) : Option Entry :=
  match x.question with
  | .page call => some (.page page call)
  | .cookies => some (.context .cookies)
  | .addCookies added => some (.context (.addCookies added))
  | _ => none

theorem Machine.answer_log (m : Machine) (page : String) (q : Question) :
    (m.answer page q).2.world.log
      = m.world.log ++ (Exchange.entry? page ⟨q, (m.answer page q).1⟩).toList := by
  cases q with
  | page call => exact World.ask_log _ _ _
  | addCookies added => exact World.askContext_log _ _
  | cookies =>
    have h := World.askContext_log m.world .cookies
    simp only [Machine.answer, Machine.askContext]
    rcases hw : m.world.askContext .cookies with ⟨e | u, w, announced⟩
    · rw [hw] at h; exact h
    · rw [hw] at h; exact h
  | makeDirs path =>
    simp only [Machine.answer]
    split <;> simp [Exchange.entry?]
  | expandHome path =>
    simp only [Machine.answer]
    split <;> simp [Exchange.entry?]
  | _ => simp [Machine.answer, Exchange.entry?]

/-- A run writes its requests into the log, and nothing else. -/
theorem Script.run_log {α : Type} (m : Machine) (page : String) (s : Script α) :
    (s.run m page).2.world.log
      = m.world.log ++ (s.transcript m page).filterMap (Exchange.entry? page) := by
  induction s generalizing m with
  | done a => simp [run, transcript]
  | fail e => simp [run, transcript]
  | ask q next ih =>
    rw [run_ask, ih, Machine.answer_log, transcript, List.filterMap_cons]
    cases Exchange.entry? page ⟨q, (m.answer page q).1⟩ <;> simp

/-! ## §3 Refusals -/

/-- A request to a page is refused as planned, or else answered by the page. -/
theorem World.ask_reply (w : World) (name : String) (c : Call) :
    (w.ask name c).1 = match planned (w.page name).plan c.planKeys with
      | some failure => .error failure
      | none => (w.page name).answer c := by
  have hlogged : ∀ e, (w.logged e).page name = w.page name := fun _ => rfl
  unfold World.ask
  dsimp only
  rw [hlogged]
  cases planned (w.page name).plan c.planKeys with
  | some failure => rfl
  | none =>
    dsimp only
    cases (w.page name).answer c <;> rfl

/-- A request to the browser is refused exactly where a failure of it is planned. -/
theorem Machine.askContext_eq_error (m : Machine) (c : ContextCall) (e : Failure) :
    (m.askContext c).1 = .error e ↔ planned m.world.plan [c.method] = some e := by
  have hlogged : ∀ e, (m.world.logged e).plan = m.world.plan := fun _ => rfl
  unfold Machine.askContext World.askContext
  dsimp only
  rw [hlogged]
  cases planned m.world.plan [c.method] <;> simp

end BrowserScript.Browser
