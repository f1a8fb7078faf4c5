/-
BrowserScript.Proofs.SignIn.Flow — scripts that record an attempt.

A flow on an attempt is a script whose result is the outcome of the flow together with the attempt as
it is then, so the record of an attempt outlives a failure.

* `Flow.on` is that script, with one equation for each way of making a flow.
* `Flow.Ensures x a Q` says that `Q` holds of the exchanges, the outcome and the attempt whenever `x`
  has run on the attempt `a`, whatever is answered, and that the record is never lost.
* `Flow.run_bind_eq_ok` takes a run of a composed flow on a machine apart.
* `Flow.Runs x a m page Q` says that `Q` holds of the run on one machine.
-/
import BrowserScript.Proofs.Browser.Ensures
import BrowserScript.SignIn.Engine

namespace BrowserScript.SignIn

open Browser

namespace Flow

variable {α β : Type}

/-- A flow on an attempt, as a script. -/
def on (x : Flow α) (a : Attempt) : Script (Except Failure α × Attempt) := ExceptT.run x a

/-! ## §1 Equations -/

theorem on_bind (x : Flow α) (f : α → Flow β) (a : Attempt) :
    on (x >>= f) a
      = on x a >>= fun p => match p.1 with
        | .ok v => on (f v) p.2
        | .error e => .done (.error e, p.2) := by
  show Script.bind _ _ = Script.bind _ _
  congr 1
  funext p
  rcases p with ⟨_ | _, _⟩ <;> rfl

theorem on_lift (s : Script α) (a : Attempt) :
    on (lift s) a = s.attempt >>= fun r => .done (r, a) := rfl

theorem on_map (g : α → β) (x : Flow α) (a : Attempt) :
    on (g <$> x) a = on x a >>= fun p => .done (p.1.map g, p.2) := by
  show Script.bind _ _ = Script.bind _ _
  congr 1
  funext p
  rcases p with ⟨_ | _, _⟩ <;> rfl

/-! ## §2 Whatever is answered -/

/-- Whatever is answered, the flow ends with an attempt, and exchanges, outcome and attempt are as `Q`
says. -/
def Ensures (x : Flow α) (a : Attempt)
    (Q : List Exchange → Except Failure α → Attempt → Prop) : Prop :=
  (on x a).Ensures (fun t r => ∃ v a', r = .ok (v, a') ∧ Q t v a')

namespace Ensures

variable {x : Flow α} {a : Attempt} {P Q : List Exchange → Except Failure α → Attempt → Prop}
  {R : List Exchange → Except Failure β → Attempt → Prop}

theorem mono (h : Flow.Ensures x a P) (hPQ : ∀ t v a', P t v a' → Q t v a') :
    Flow.Ensures x a Q := by
  refine Script.Ensures.mono h ?_
  rintro t r ⟨v, a', hr, hv⟩
  exact ⟨v, a', hr, hPQ t v a' hv⟩

theorem pure {v : α} (h : Q [] (.ok v) a) : Flow.Ensures (Pure.pure v) a Q := ⟨_, _, rfl, h⟩

theorem fail {fault : SignInFault} (h : Q [] (.error (.signIn fault)) a) :
    Flow.Ensures (Flow.fail fault) a Q := ⟨_, _, rfl, h⟩

theorem change {f : Attempt → Attempt} {Q : List Exchange → Except Failure Unit → Attempt → Prop}
    (h : Q [] (.ok ()) (f a)) : Flow.Ensures (modify f) a Q := ⟨_, _, rfl, h⟩

theorem advance {st : Stage} {Q : List Exchange → Except Failure Unit → Attempt → Prop}
    (h : Q [] (.ok ()) (a.advance st)) : Flow.Ensures (Flow.advance st) a Q := ⟨_, _, rfl, h⟩

theorem get {Q : List Exchange → Except Failure Attempt → Attempt → Prop}
    (h : Q [] (.ok a) a) : Flow.Ensures MonadState.get a Q := ⟨_, _, rfl, h⟩

/-- A script inside an attempt leaves the attempt as it is. -/
theorem lift {s : Script α} (h : s.Ensures (fun t r => Q t r a)) :
    Flow.Ensures (Flow.lift s) a Q := by
  unfold Flow.Ensures
  rw [on_lift]
  refine Script.Ensures.bind (P := fun t r => ∃ r', r = .ok r' ∧ Q t r' a) ?_ ?_ ?_
  · exact Script.Ensures.attempt (h.mono (fun t r ht => ⟨r, rfl, ht⟩))
  · rintro t r ⟨r', hr, ht⟩
    cases hr
    exact ⟨r, a, rfl, (List.append_nil t).symm ▸ ht⟩
  · rintro t e ⟨r', hr, -⟩
    cases hr

theorem bind {f : α → Flow β} (h : Flow.Ensures x a P)
    (hok : ∀ t v a', P t (.ok v) a' → Flow.Ensures (f v) a' (fun u w b => R (t ++ u) w b))
    (herr : ∀ t e a', P t (.error e) a' → R t (.error e) a') : Flow.Ensures (x >>= f) a R := by
  unfold Flow.Ensures
  rw [on_bind]
  refine Script.Ensures.bind h ?_ ?_
  · rintro t ⟨v, a'⟩ ⟨v', a'', hr, ht⟩
    cases hr
    cases v with
    | ok v => exact hok t v a' ht
    | error e => exact ⟨.error e, a', rfl, (List.append_nil t).symm ▸ herr t e a' ht⟩
  · rintro t e ⟨v, a', hr, -⟩
    cases hr

/-- A script and what comes after it. The attempt is the same when the flow goes on. -/
theorem bind_lift {s : Script α} {f : α → Flow β} {P : List Exchange → Except Failure α → Prop}
    (h : s.Ensures P)
    (hok : ∀ t v, P t (.ok v) → Flow.Ensures (f v) a (fun u w b => R (t ++ u) w b))
    (herr : ∀ t e, P t (.error e) → R t (.error e) a) : Flow.Ensures (Flow.lift s >>= f) a R := by
  refine bind (P := fun t v a' => a' = a ∧ P t v) (lift (h.mono fun t r ht => ⟨rfl, ht⟩)) ?_ ?_
  · rintro t v a' ⟨rfl, ht⟩
    exact hok t v ht
  · rintro t e a' ⟨rfl, ht⟩
    exact herr t e ht

theorem bind_advance {st : Stage} {f : Unit → Flow β} (h : Flow.Ensures (f ()) (a.advance st) R) :
    Flow.Ensures (Flow.advance st >>= f) a R := h

theorem bind_change {g : Attempt → Attempt} {f : Unit → Flow β} (h : Flow.Ensures (f ()) (g a) R) :
    Flow.Ensures ((modify g : Flow Unit) >>= f) a R := h

theorem map {g : α → β} (h : Flow.Ensures x a (fun t v a' => R t (v.map g) a')) :
    Flow.Ensures (g <$> x) a R := by
  unfold Flow.Ensures
  rw [on_map]
  refine Script.Ensures.bind h ?_ ?_
  · rintro t p ⟨v, a', hr, ht⟩
    cases hr
    exact ⟨_, _, rfl, (List.append_nil t).symm ▸ ht⟩
  · rintro t e ⟨v, a', hr, -⟩
    cases hr

theorem and (h : Flow.Ensures x a P) (h' : Flow.Ensures x a Q) :
    Flow.Ensures x a (fun t v a' => P t v a' ∧ Q t v a') := by
  refine Script.Ensures.mono (Script.Ensures.and h h') ?_
  rintro t r ⟨⟨v, a', rfl, hP⟩, w, b, hr, hQ⟩
  cases hr
  exact ⟨v, a', rfl, hP, hQ⟩

/-- What a flow ensures, together with the kind of its questions. -/
theorem asking {K : Question → Prop} (h : Flow.Ensures x a Q) (hx : (on x a).Asks K) :
    Flow.Ensures x a (fun t v a' => Q t v a' ∧ ∀ y ∈ t, K y.question) := by
  refine Script.Ensures.mono (Script.Ensures.and h hx) ?_
  rintro t r ⟨⟨v, a', hr, hQ⟩, hasked⟩
  exact ⟨v, a', hr, hQ, hasked⟩

end Ensures

/-! ## §3 On a machine -/

/-- A composed flow has a result exactly when both parts have one, the second on the attempt and the
machine that the first leaves behind. -/
theorem run_bind_eq_ok {x : Flow α} {f : α → Flow β} {a a' : Attempt} {m m' : Machine} {page : String}
    {w : β} :
    (on (x >>= f) a).run m page = (.ok (.ok w, a'), m') ↔
      ∃ v a₁ m₁, (on x a).run m page = (.ok (.ok v, a₁), m₁) ∧
        (on (f v) a₁).run m₁ page = (.ok (.ok w, a'), m') := by
  rw [on_bind, Script.run_bind_eq_ok]
  constructor
  · rintro ⟨⟨v, a₁⟩, m₁, hx, hf⟩
    cases v with
    | ok v => exact ⟨v, a₁, m₁, hx, hf⟩
    | error e => cases hf
  · rintro ⟨v, a₁, m₁, hx, hf⟩
    exact ⟨(.ok v, a₁), m₁, hx, hf⟩

/-- A composed flow has come to the second part, or it ended with a failure of the first one. -/
theorem run_bind_cases {x : Flow α} {f : α → Flow β} {a a' : Attempt} {m m' : Machine} {page : String}
    {w : Except Failure β} (h : (on (x >>= f) a).run m page = (.ok (w, a'), m')) :
    (∃ e, w = .error e ∧ (on x a).run m page = (.ok (.error e, a'), m')) ∨
      ∃ v a₁ m₁, (on x a).run m page = (.ok (.ok v, a₁), m₁) ∧
        (on (f v) a₁).run m₁ page = (.ok (w, a'), m') := by
  rw [on_bind] at h
  obtain ⟨⟨v, a₁⟩, m₁, hx, hf⟩ := Script.run_bind_eq_ok.1 h
  cases v with
  | ok v => exact .inr ⟨v, a₁, m₁, hx, hf⟩
  | error e =>
    cases hf
    exact .inl ⟨e, rfl, hx⟩

/-- The exchanges of a composed flow whose first part fails. -/
theorem transcript_bind_of_error {x : Flow α} {f : α → Flow β} {a a₁ : Attempt} {m m₁ : Machine} {page : String}
    {e : Failure} (h : (on x a).run m page = (.ok (.error e, a₁), m₁)) :
    (on (x >>= f) a).transcript m page = (on x a).transcript m page := by
  rw [on_bind, Script.transcript_bind, h]
  exact List.append_nil _

/-- The exchanges of a composed flow whose first part has a result. -/
theorem transcript_bind {x : Flow α} {f : α → Flow β} {a a₁ : Attempt} {m m₁ : Machine} {page : String}
    {v : α} (h : (on x a).run m page = (.ok (.ok v, a₁), m₁)) :
    (on (x >>= f) a).transcript m page
      = (on x a).transcript m page ++ (on (f v) a₁).transcript m₁ page := by
  rw [on_bind, Script.transcript_bind, h]

/-- The exchanges of the first part of a flow come first, whether or not it fails. -/
theorem transcript_prefix (x : Flow α) (f : α → Flow β) (a : Attempt) (m : Machine)
    (page : String) :
    (on x a).transcript m page <+: (on (x >>= f) a).transcript m page := by
  rw [on_bind, Script.transcript_bind]
  exact List.prefix_append _ _

/-- A script inside an attempt has the result that it has on its own. -/
theorem run_lift (s : Script α) (a : Attempt) (m : Machine) (page : String) :
    (on (lift s) a).run m page = (.ok ((s.run m page).1, a), (s.run m page).2) := by
  rw [on_lift, Script.run_bind, Script.run_attempt]
  rfl

theorem run_lift_eq_ok {s : Script α} {a a' : Attempt} {m m' : Machine} {page : String} {v : α} :
    (on (lift s) a).run m page = (.ok (.ok v, a'), m') ↔ a' = a ∧ s.run m page = (.ok v, m') := by
  rw [run_lift]
  constructor
  · intro h
    injection h with hresult hmachine
    injection Except.ok.inj hresult with hv ha
    exact ⟨ha.symm, Prod.ext hv hmachine⟩
  · rintro ⟨rfl, h⟩
    rw [h]

theorem transcript_lift (s : Script α) (a : Attempt) (m : Machine) (page : String) :
    (on (lift s) a).transcript m page = s.transcript m page := by
  rw [on_lift, Script.transcript_bind, Script.run_attempt, Script.transcript_attempt]
  exact List.append_nil _

/-- The run of a flow on a machine ends with an attempt, and its exchanges, outcome and attempt are as `Q` says. -/
def Runs (x : Flow α) (a : Attempt) (m : Machine) (page : String)
    (Q : List Exchange → Except Failure α → Attempt → Prop) : Prop :=
  ∃ v a' m', (on x a).run m page = (.ok (v, a'), m') ∧ Q ((on x a).transcript m page) v a'

theorem Ensures.runs {x : Flow α} {a : Attempt} {Q : List Exchange → Except Failure α → Attempt → Prop}
    (h : Flow.Ensures x a Q) (m : Machine) (page : String) : Runs x a m page Q := by
  obtain ⟨v, a', hresult, hQ⟩ := Script.Ensures.run h m page
  exact ⟨v, a', ((on x a).run m page).2, Prod.ext hresult rfl, hQ⟩

namespace Runs

variable {x : Flow α} {f : α → Flow β} {a a₁ : Attempt} {m m₁ : Machine} {page : String}
  {P Q : List Exchange → Except Failure α → Attempt → Prop} {R : List Exchange → Except Failure β → Attempt → Prop}

theorem mono (h : Runs x a m page P) (hPQ : ∀ t v a', P t v a' → Q t v a') : Runs x a m page Q := by
  obtain ⟨v, a', m', hrun, hP⟩ := h
  exact ⟨v, a', m', hrun, hPQ _ v a' hP⟩

/-- A flow whose first part is known to have a result. -/
theorem bind_of_run {v : α} (hrun : (on x a).run m page = (.ok (.ok v, a₁), m₁))
    (h : Runs (f v) a₁ m₁ page (fun u w b => R ((on x a).transcript m page ++ u) w b)) :
    Runs (x >>= f) a m page R := by
  obtain ⟨w, b, m₂, hrest, hR⟩ := h
  refine ⟨w, b, m₂, ?_, ?_⟩
  · rw [on_bind, Script.run_bind, hrun]
    exact hrest
  · rw [transcript_bind hrun]
    exact hR

/-- A flow whose first part is known to fail. -/
theorem bind_of_error {e : Failure} (hrun : (on x a).run m page = (.ok (.error e, a₁), m₁))
    (h : R ((on x a).transcript m page) (.error e) a₁) : Runs (x >>= f) a m page R := by
  refine ⟨.error e, a₁, m₁, ?_, ?_⟩
  · rw [on_bind, Script.run_bind, hrun]
    rfl
  · rw [transcript_bind_of_error hrun]
    exact h

/-- A script that is known to have a result, and what comes after it. -/
theorem bind_lift_of_run {s : Script α} {v : α} (hrun : s.run m page = (.ok v, m₁))
    (h : Runs (f v) a m₁ page (fun u w b => R (s.transcript m page ++ u) w b)) : Runs (lift s >>= f) a m page R := by
  refine bind_of_run (run_lift_eq_ok.2 ⟨rfl, hrun⟩) ?_
  rw [transcript_lift]
  exact h

/-- A script that is known to fail. -/
theorem bind_lift_of_error {s : Script α} {e : Failure} (hrun : s.run m page = (.error e, m₁))
    (h : R (s.transcript m page) (.error e) a) : Runs (lift s >>= f) a m page R := by
  have hfails : (on (lift s) a).run m page = (.ok (.error e, a), m₁) := by rw [run_lift, hrun]
  refine bind_of_error hfails ?_
  rw [transcript_lift]
  exact h

theorem bind (h : Runs x a m page P)
    (hok : ∀ t v b m₁, P t (.ok v) b → Runs (f v) b m₁ page (fun u w b' => R (t ++ u) w b'))
    (herr : ∀ t e b, P t (.error e) b → R t (.error e) b) : Runs (x >>= f) a m page R := by
  obtain ⟨v, b, m₁, hrun, hP⟩ := h
  cases v with
  | ok v => exact bind_of_run hrun (hok _ v b m₁ hP)
  | error e => exact bind_of_error hrun (herr _ e b hP)

end Runs

/-- What a flow ensures, for a run of it that is known. -/
theorem Ensures.of_run {x : Flow α} {a a' : Attempt} {m m' : Machine} {page : String}
    {v : Except Failure α} {Q : List Exchange → Except Failure α → Attempt → Prop}
    (h : Flow.Ensures x a Q) (hrun : (on x a).run m page = (.ok (v, a'), m')) :
    Q ((on x a).transcript m page) v a' := by
  obtain ⟨w, b, hresult, hQ⟩ := Script.Ensures.run h m page
  rw [hrun] at hresult
  cases hresult
  exact hQ

end Flow
end BrowserScript.SignIn
