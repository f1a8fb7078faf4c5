/-
BrowserScript.Proofs.Browser.Ensures — what holds of a script whatever it is told.

`Script.Ensures s Q` says that `Q` holds of the transcript and the end of every run of `s`, whatever
the answers are. The answers of a machine are a special case (`Script.Ensures.run`), so a fact proved
in this way holds in every world, with every failure planned in it.

There is one rule for each way in which scripts are composed. `Script.Asks` is the case in which only
the questions matter, `Script.Gives` the one in which only the result does.
-/
import BrowserScript.Proofs.Browser.Transcript

namespace BrowserScript.Browser.Script

variable {α β : Type}

/-- Whatever is answered, the exchanges and the end of the script are as `Q` says. -/
def Ensures : Script α → (List Exchange → Except Failure α → Prop) → Prop
  | .done a, Q => Q [] (.ok a)
  | .fail e, Q => Q [] (.error e)
  | .ask q next, Q => ∀ reply, (next reply).Ensures (fun t r => Q (⟨q, reply⟩ :: t) r)

namespace Ensures

variable {s : Script α} {P Q : List Exchange → Except Failure α → Prop}
  {R : List Exchange → Except Failure β → Prop}

/-- What holds whatever is answered holds on every machine. -/
theorem run (h : s.Ensures Q) (m : Machine) (page : String) :
    Q (s.transcript m page) (s.run m page).1 := by
  induction s generalizing m Q with
  | done a => exact h
  | fail e => exact h
  | ask q next ih => exact ih _ (h _) _

theorem mono (h : s.Ensures P) (hPQ : ∀ t r, P t r → Q t r) : s.Ensures Q := by
  induction s generalizing P Q with
  | done a => exact hPQ _ _ h
  | fail e => exact hPQ _ _ h
  | ask q next ih => exact fun reply => ih reply (h reply) (fun t r => hPQ _ _)

theorem and (h : s.Ensures P) (h' : s.Ensures Q) : s.Ensures (fun t r => P t r ∧ Q t r) := by
  induction s generalizing P Q with
  | done a => exact ⟨h, h'⟩
  | fail e => exact ⟨h, h'⟩
  | ask q next ih => exact fun reply => ih reply (h reply) (h' reply)

/-- A script about which nothing is known. -/
theorem any (s : Script α) : s.Ensures (fun _ _ => True) := by
  induction s with
  | done a => trivial
  | fail e => trivial
  | ask q next ih => exact ih

theorem of_forall (s : Script α) (hQ : ∀ t r, Q t r) : s.Ensures Q :=
  (any s).mono (fun t r _ => hQ t r)

/-- A composed script: the second part goes on after the exchanges of the first. -/
theorem bind {f : α → Script β} (h : s.Ensures P)
    (hok : ∀ t a, P t (.ok a) → (f a).Ensures (fun u r => R (t ++ u) r))
    (herr : ∀ t e, P t (.error e) → R t (.error e)) : (s >>= f).Ensures R := by
  induction s generalizing P R with
  | done a => simpa using hok [] a h
  | fail e => exact herr [] e h
  | ask q next ih =>
    intro reply
    exact ih reply (h reply) (fun t a ht => hok _ a ht) (fun t e ht => herr _ e ht)

/-- A composed script of which only the second part counts: nothing that was exchanged before spoils
what it ensures. -/
theorem bind_then {f : α → Script β} (hlater : ∀ t u r, R u r → R (t ++ u) r)
    (herr : ∀ t e, R t (.error e)) (h : ∀ a, (f a).Ensures R) : (s >>= f).Ensures R :=
  bind (any s) (fun t a _ => (h a).mono (hlater t)) (fun t e _ => herr t e)

theorem query {q : Question} {Q : List Exchange → Except Failure q.Reply → Prop}
    (h : ∀ reply, Q [⟨q, reply⟩] reply) : (Script.query q).Ensures Q := by
  intro reply
  cases reply with
  | ok a => exact h (.ok a)
  | error e => exact h (.error e)

theorem ofExcept {r : Except Failure α} (h : Q [] r) : (Script.ofExcept r).Ensures Q := by
  cases r <;> exact h

/-- A failure that became a result. -/
theorem attempt {Q : List Exchange → Except Failure (Except Failure α) → Prop}
    (h : s.Ensures (fun t r => Q t (.ok r))) : s.attempt.Ensures Q := by
  induction s generalizing Q with
  | done a => exact h
  | fail e => exact h
  | ask q next ih => exact fun reply => ih reply (h reply)

/-- A handled failure: the handler goes on after the exchanges that led to it. -/
theorem rescue {handle : Failure → Script α} (h : s.Ensures P)
    (hok : ∀ t a, P t (.ok a) → Q t (.ok a))
    (herr : ∀ t e, P t (.error e) → (handle e).Ensures (fun u r => Q (t ++ u) r)) :
    (s.rescue handle).Ensures Q := by
  refine bind (P := fun t r => ∃ r', r = .ok r' ∧ P t r') (attempt ?_) ?_ ?_
  · exact h.mono (fun t r ht => ⟨r, rfl, ht⟩)
  · rintro t r ⟨r', hr, ht⟩
    cases hr
    cases r with
    | ok a =>
      show Q (t ++ []) (.ok a)
      rw [List.append_nil]
      exact hok t a ht
    | error e => exact herr t e ht
  · rintro t e ⟨r, hr, -⟩
    cases hr

/-- A handled refusal. Only the failures of the browser reach the handler, and of these not the loss of
the session. -/
theorem onRefusal {handle : Failure → Script α} (h : s.Ensures P)
    (hok : ∀ t a, P t (.ok a) → Q t (.ok a))
    (herr : ∀ t e e', P t (.error e) → Q t (.error e'))
    (hhandle : ∀ t e, P t (.error e) → (handle e).Ensures (fun u r => Q (t ++ u) r)) :
    (s.onRefusal handle).Ensures Q := by
  refine rescue h hok ?_
  intro t e ht
  have hfail : ∀ e', (Script.fail e' : Script α).Ensures (fun u r => Q (t ++ u) r) := by
    intro e'
    show Q (t ++ []) (.error e')
    rw [List.append_nil]
    exact herr t e e' ht
  split
  · split
    · exact hfail _
    · exact hhandle t e ht
  · exact hfail _

end Ensures

/-! ## Questions only -/

/-- All questions of the script are of a kind. -/
def Asks (K : Question → Prop) (s : Script α) : Prop :=
  s.Ensures (fun t _ => ∀ x ∈ t, K x.question)

namespace Asks

variable {K : Question → Prop} {s : Script α}

theorem done (a : α) : (Script.done a).Asks K := by
  intro x hx
  cases hx

theorem fail (e : Failure) : (Script.fail e : Script α).Asks K := by
  intro x hx
  cases hx

theorem query {q : Question} (h : K q) : (Script.query q).Asks K := by
  refine Ensures.query ?_
  intro reply x hx
  rw [List.mem_singleton.1 hx]
  exact h

theorem ofExcept (r : Except Failure α) : (Script.ofExcept r).Asks K :=
  Ensures.ofExcept (fun _ hx => nomatch hx)

theorem bind {f : α → Script β} (hs : s.Asks K) (hf : ∀ a, (f a).Asks K) : (s >>= f).Asks K := by
  refine Ensures.bind hs ?_ (fun t e ht => ht)
  intro t a ht
  refine (hf a).mono ?_
  intro u r hu x hx
  rcases List.mem_append.1 hx with hx | hx
  · exact ht x hx
  · exact hu x hx

theorem rescue {handle : Failure → Script α} (hs : s.Asks K) (hh : ∀ e, (handle e).Asks K) :
    (s.rescue handle).Asks K := by
  refine Ensures.rescue hs (fun t a ht => ht) ?_
  intro t e ht
  refine (hh e).mono ?_
  intro u r hu x hx
  rcases List.mem_append.1 hx with hx | hx
  · exact ht x hx
  · exact hu x hx

theorem onRefusal {handle : Failure → Script α} (hs : s.Asks K) (hh : ∀ e, (handle e).Asks K) :
    (s.onRefusal handle).Asks K := by
  refine rescue hs ?_
  intro e
  split
  · split
    · exact fail _
    · exact hh e
  · exact fail _

theorem attempt (hs : s.Asks K) : s.attempt.Asks K := Ensures.attempt hs

end Asks

/-! ## Results only -/

/-- A result of the script, if there is one, is as `P` says. -/
def Gives (P : α → Prop) (s : Script α) : Prop :=
  s.Ensures (fun _ r => ∀ a, r = .ok a → P a)

namespace Gives

variable {P : α → Prop} {s : Script α}

theorem done {a : α} (h : P a) : (Script.done a).Gives P := by
  intro a' ha
  cases ha
  exact h

theorem fail (e : Failure) : (Script.fail e : Script α).Gives P := nofun

theorem bind {Q : β → Prop} {f : α → Script β} (hs : s.Gives P) (hf : ∀ a, P a → (f a).Gives Q) :
    (s >>= f).Gives Q :=
  Ensures.bind hs (fun _ a ht => hf a (ht a rfl)) (fun _ _ _ => nofun)

/-- A composed script of which only the second part matters. -/
theorem bind_any {Q : β → Prop} {f : α → Script β} (hf : ∀ a, (f a).Gives Q) : (s >>= f).Gives Q :=
  Ensures.bind_then (fun _ _ _ h => h) (fun _ _ => nofun) hf

end Gives
end BrowserScript.Browser.Script
