/-
BrowserScript.Proofs.SignIn.History — the stages that an attempt passes.

Main statement: `authenticate_history`. Every attempt, whether it succeeds or fails, begins off the
sign-in page, passes its stages in the order in which they are declared, and ends in one last stage:
done exactly when it succeeds, failed exactly when it does not.

The invariant is `Attempt.UnderWay`. One step keeps it (`UnderWay.advance`): an attempt may only go on
to a later stage. Every part of an attempt keeps it whatever the surroundings answer, also where the
part fails, because a script inside a flow leaves the attempt as it is. The end then turns an attempt
that is under way into one that has ended (`UnderWay.ended`).
-/
import BrowserScript.Proofs.SignIn.KnownSite

namespace BrowserScript.SignIn

open Browser

/-! ## §1 Stages in order -/

/-- Whether a stage is declared before another one. -/
def Stage.Before (s t : Stage) : Prop := s.ctorIdx < t.ctorIdx

instance (s t : Stage) : Decidable (s.Before t) := inferInstanceAs (Decidable (_ < _))

/-- Whether an attempt ends at a stage. -/
def Stage.isEnd : Stage → Bool
  | .done | .failed => true
  | _ => false

theorem Stage.isEnd_of_not_before {s : Stage} (h : ¬ s.Before .done) : s.isEnd = true := by
  cases s <;> first | rfl | exact absurd (by decide) h

theorem Stage.isEnd_eq_false {s : Stage} (h : s.Before .done) : s.isEnd = false := by
  cases s <;> first | rfl | exact absurd h (by decide)

namespace Attempt

/-- The record is in order: it begins off the sign-in page, its stages ascend, and the stage of the
attempt is the last of them. -/
structure InOrder (a : Attempt) : Prop where
  starts : a.history.head? = some .notOnAuthPage
  ascending : a.history.Pairwise Stage.Before
  stage_last : a.history.getLast? = some a.stage

/-- The record is in order and the attempt has not ended. -/
structure UnderWay (a : Attempt) : Prop extends a.InOrder where
  open_ : a.stage.Before .done

theorem underWay_fresh (requested : Option Intent) : UnderWay { intent := requested } where
  starts := rfl
  ascending := List.pairwise_singleton _ _
  stage_last := rfl
  open_ := by show Stage.Before .notOnAuthPage .done; decide

/-- Only stages count. -/
theorem UnderWay.congr {a b : Attempt} (h : a.UnderWay) (hhistory : b.history = a.history)
    (hstage : b.stage = a.stage) : b.UnderWay where
  starts := hhistory ▸ h.starts
  ascending := hhistory ▸ h.ascending
  stage_last := by rw [hhistory, hstage]; exact h.stage_last
  open_ := hstage ▸ h.open_

theorem mem_advance {a : Attempt} {s : Stage} (hs : s ∈ a.history) (t : Stage) :
    s ∈ (a.advance t).history := List.mem_append_left _ hs

theorem mem_advance_self (a : Attempt) (t : Stage) : t ∈ (a.advance t).history :=
  List.mem_append_right _ (List.mem_singleton_self _)

namespace InOrder

variable {a : Attempt}

theorem stage_mem (h : a.InOrder) : a.stage ∈ a.history := List.mem_of_getLast? h.stage_last

/-- No stage passed lies after the present one. -/
theorem before_or_eq (h : a.InOrder) {s : Stage} (hs : s ∈ a.history) :
    s.Before a.stage ∨ s = a.stage := by
  obtain ⟨passed, hpassed⟩ := List.getLast?_eq_some_iff.1 h.stage_last
  rw [hpassed] at hs
  rcases List.mem_append.1 hs with hs | hs
  · have hasc := h.ascending
    rw [hpassed, List.pairwise_append] at hasc
    exact .inl (hasc.2.2 s hs a.stage (List.mem_singleton_self _))
  · exact .inr (List.mem_singleton.1 hs)

/-- One step: an attempt goes on to a later stage. -/
theorem advance (h : a.InOrder) {s : Stage} (hs : a.stage.Before s) : (a.advance s).InOrder where
  starts := by
    show (a.history ++ [s]).head? = _
    rw [List.head?_append, h.starts]
    rfl
  ascending := by
    refine List.pairwise_append.2 ⟨h.ascending, List.pairwise_singleton _ _, ?_⟩
    intro t ht u hu
    rw [List.mem_singleton.1 hu]
    rcases h.before_or_eq ht with hlt | rfl
    · exact Nat.lt_trans hlt hs
    · exact hs
  stage_last := List.getLast?_concat

end InOrder

/-- One step before the end. -/
theorem UnderWay.advance {a : Attempt} (h : a.UnderWay) {s t : Stage} (ha : a.stage = s)
    (hs : s.Before t) (hend : t.Before .done) : (a.advance t).UnderWay :=
  ⟨h.toInOrder.advance (ha ▸ hs), hend⟩

/-- No stage passed before the end is an end. -/
theorem UnderWay.isEnd_eq_false {a : Attempt} (h : a.UnderWay) {s : Stage} (hs : s ∈ a.history) :
    s.isEnd = false := by
  rcases h.before_or_eq hs with hlt | rfl
  · exact Stage.isEnd_eq_false (Nat.lt_trans hlt h.open_)
  · exact Stage.isEnd_eq_false h.open_

/-- The last step: of all stages passed, only the last one is an end. -/
theorem UnderWay.ended {a : Attempt} (h : a.UnderWay) {s : Stage} (hs : ¬ s.Before .done) :
    (a.advance s).history.filter Stage.isEnd = [s] := by
  have hopen : a.history.filter Stage.isEnd = [] :=
    List.filter_eq_nil_iff.2 fun t ht => by simp [h.isEnd_eq_false ht]
  show (a.history ++ [s]).filter _ = _
  rw [List.filter_append, hopen, List.nil_append]
  exact List.filter_eq_self.2 (by simpa using Stage.isEnd_of_not_before hs)

end Attempt

/-! ## §2 The parts of an attempt -/

/-- The fields are to be filled in or have been filled in. The stage of detection is missing only where a
known site had a strategy of its own. -/
structure Attempt.Filling (a : Attempt) : Prop extends a.UnderWay where
  stage_eq : a.stage = .fillingFields
  reached : .onAuthPage ∈ a.history
  explained : .detectingFormType ∈ a.history ∨ a.strategy ≠ genericStrategy

variable {a : Attempt}

theorem reachForm_underWay (p : Patience) (intent : Intent) (h : a.UnderWay)
    (hs : a.stage = .notOnAuthPage) :
    Flow.Ensures (reachForm p intent) a (fun _ v a' =>
      a'.UnderWay ∧ (v = .ok () → a'.stage = .onAuthPage)) := by
  have hfinding : (a.advance .findingAuthLink).UnderWay :=
    h.advance hs (by decide) (by decide)
  unfold reachForm
  refine .bind_lift (.any _) ?_ (fun _ _ _ => ⟨h, nofun⟩)
  intro t here _
  split
  · exact .advance ⟨h.advance hs (by decide) (by decide), fun _ => rfl⟩
  · refine .bind_advance (.bind_lift (.any _) ?_ (fun _ _ _ => ⟨hfinding, nofun⟩))
    intro t viaLink _
    split
    · exact .advance ⟨hfinding.advance (s := .findingAuthLink) rfl (by decide) (by decide), fun _ => rfl⟩
    · refine .bind_lift (.any _) ?_ (fun _ _ _ => ⟨hfinding, nofun⟩)
      intro t viaPath _
      split
      · exact .advance ⟨hfinding.advance (s := .findingAuthLink) rfl (by decide) (by decide), fun _ => rfl⟩
      · exact .fail ⟨hfinding, nofun⟩

/-- Detection begins on the sign-in page and ends where the fields are to be filled in. -/
theorem detect_filling (requested : Option Intent) (h : a.UnderWay) (hs : a.stage = .onAuthPage) :
    Flow.Ensures (detect requested) a (fun _ v a' => a'.UnderWay ∧ (v.isOk → a'.Filling)) := by
  have hdetect : (a.advance .detectingFormType).UnderWay := h.advance hs (by decide) (by decide)
  have hfound : ∀ intent : Option Intent,
      ({ a.advance .detectingFormType with intent := intent }.advance .fillingFields).Filling := by
    intro intent
    have hknown : ({ a.advance .detectingFormType with intent := intent } : Attempt).UnderWay :=
      hdetect.congr rfl rfl
    exact {
      toUnderWay := hknown.advance (s := .detectingFormType) rfl (by decide) (by decide)
      stage_eq := rfl
      reached := Attempt.mem_advance (Attempt.mem_advance (hs ▸ h.stage_mem) _) _
      explained := .inl (Attempt.mem_advance (Attempt.mem_advance_self a _) _) }
  unfold detect
  refine .bind_advance (.bind (P := fun _ _ a' => a' = a.advance .detectingFormType) ?_ ?_ ?_)
  · cases requested with
    | some intent => exact .pure rfl
    | none => exact .lift (.of_forall _ (fun _ _ => rfl))
  · rintro t intent a' rfl
    refine .bind_change (.bind_advance (.bind_lift (.any _) ?_ ?_))
    · intro t address _
      exact .pure ⟨(hfound _).toUnderWay, fun _ => hfound _⟩
    · intro t e _
      exact ⟨(hfound _).toUnderWay, nofun⟩
  · rintro t e a' rfl
    exact ⟨hdetect, nofun⟩

/-- An attempt that a known site has settled is on the sign-in page and its fields are filled in. -/
theorem settled_filling (intent : Option Intent) (h : a.UnderWay) (hs : a.stage = .notOnAuthPage)
    (hsite : a.strategy ≠ genericStrategy) :
    (({ a with intent := intent }.advance .onAuthPage).advance .fillingFields).Filling := by
  have hknown : ({ a with intent := intent } : Attempt).UnderWay := h.congr rfl rfl
  have hon : ({ a with intent := intent }.advance .onAuthPage).UnderWay :=
    hknown.advance hs (by decide) (by decide)
  exact {
    toUnderWay := hon.advance (s := .onAuthPage) rfl (by decide) (by decide)
    stage_eq := rfl
    reached := Attempt.mem_advance (Attempt.mem_advance_self _ _) _
    explained := .inr hsite }

theorem approach_filling (p : Patience) (c : Credentials) (requested : Option Intent)
    (h : a.UnderWay) (hs : a.stage = .notOnAuthPage) :
    Flow.Ensures (approach p c requested) a (fun _ v a' => a'.UnderWay ∧ (v.isOk → a'.Filling)) := by
  unfold approach
  refine .bind_lift (.any _) ?_ (fun _ _ _ => ⟨h, nofun⟩)
  intro t start _
  refine .bind (siteComesFirst_record requested) ?_ (fun _ _ _ ha => ha.1 ▸ ⟨h, nofun⟩)
  rintro u siteFirst a' ⟨rfl, -⟩
  refine .bind (earlySite_record p c siteFirst) ?_ ?_
  · intro w settled b hsite
    have hb : b.UnderWay := h.congr hsite.history_eq hsite.stage_eq
    split
    · rename_i hsettled
      have hfilling := settled_filling (some .login) hb (hsite.stage_eq.trans hs)
        (hsite.settled (by rw [hsettled]))
      exact .bind_change (.bind_advance (.bind_advance
        (.pure ⟨hfilling.toUnderWay, fun _ => hfilling⟩)))
    · refine .bind (reachForm_underWay p _ hb (hsite.stage_eq.trans hs)) ?_ (fun _ _ _ ha => ⟨ha.1, nofun⟩)
      rintro x ⟨⟩ b' ⟨hb', hon⟩
      refine .bind (detect_filling requested hb' (hon rfl)) ?_ (fun _ _ _ ha => ⟨ha.1, nofun⟩)
      rintro y ⟨intent, address⟩ b'' ⟨hb'', hfilling⟩
      exact .pure ⟨hb'', fun _ => hfilling rfl⟩
  · intro w e b hsite
    rw [hsite.same nofun]
    exact ⟨h, nofun⟩

/-- Filling the fields in passes no stage. -/
theorem fillIn_filling (p : Patience) (c : Credentials) (standing : Standing) (h : a.Filling) :
    Flow.Ensures (fillIn p c standing) a (fun _ _ a' => a'.Filling) := by
  cases standing with
  | settled start => exact .pure h
  | atForm intent address siteTried =>
    have hsite : Flow.Ensures (lateSite p c intent siteTried) a (fun _ _ a' => a'.Filling) := by
      refine (lateSite_record p c intent siteTried).mono ?_
      intro t v b hb
      by_cases hv : v = .ok true
      · exact {
          toUnderWay := h.congr hb.history_eq hb.stage_eq
          stage_eq := hb.stage_eq.trans h.stage_eq
          reached := hb.history_eq ▸ h.reached
          explained := .inr (hb.settled hv) }
      · rw [hb.same hv]
        exact h
    unfold fillIn
    refine .bind hsite ?_ (fun _ _ _ ha => ha)
    intro t bySite b hb
    split
    · exact .pure hb
    · refine .bind_lift (.any _) ?_ (fun _ _ _ => hb)
      intro u _ _
      exact .pure hb

/-! ## §3 The end of an attempt -/

/-- The form is sent, or is being sent. -/
structure Attempt.Submitting (a : Attempt) : Prop extends a.UnderWay where
  stage_eq : a.stage = .submitting
  reached : .onAuthPage ∈ a.history
  filled : .fillingFields ∈ a.history
  explained : .detectingFormType ∈ a.history ∨ a.strategy ≠ genericStrategy

/-- The attempt has succeeded. -/
structure Attempt.Complete (a : Attempt) : Prop extends a.InOrder where
  stage_eq : a.stage = .done
  one_end : a.history.filter Stage.isEnd = [.done]
  reached : .onAuthPage ∈ a.history
  filled : .fillingFields ∈ a.history
  submitted : .submitting ∈ a.history
  explained : .detectingFormType ∈ a.history ∨ a.strategy ≠ genericStrategy

theorem Attempt.Filling.submit (h : a.Filling) : (a.advance .submitting).Submitting where
  toUnderWay := h.advance h.stage_eq (by decide) (by decide)
  stage_eq := rfl
  reached := Attempt.mem_advance h.reached _
  filled := Attempt.mem_advance (h.stage_eq ▸ h.stage_mem) _
  explained := h.explained.imp (Attempt.mem_advance · _) id

theorem Attempt.Submitting.complete (h : a.Submitting) : (a.advance .done).Complete where
  toInOrder := h.toInOrder.advance (by rw [h.stage_eq]; decide)
  stage_eq := rfl
  one_end := h.ended (by decide)
  reached := Attempt.mem_advance h.reached _
  filled := Attempt.mem_advance h.filled _
  submitted := Attempt.mem_advance (h.stage_eq ▸ h.stage_mem) _
  explained := h.explained.imp (Attempt.mem_advance · _) id

theorem Attempt.Submitting.congr {b : Attempt} (h : a.Submitting) (hhistory : b.history = a.history)
    (hstage : b.stage = a.stage) (hstrategy : b.strategy = a.strategy) : b.Submitting where
  toUnderWay := h.toUnderWay.congr hhistory hstage
  stage_eq := hstage.trans h.stage_eq
  reached := hhistory ▸ h.reached
  filled := hhistory ▸ h.filled
  explained := by rw [hhistory, hstrategy]; exact h.explained

theorem send_submitting (p : Patience) (bySite : Bool) (h : a.Submitting) :
    Flow.Ensures (send p bySite) a (fun _ _ a' => a'.Submitting) := by
  unfold send
  split
  · exact .pure h
  · refine .bind (P := fun _ _ a' => a'.Submitting) (.get h) ?_ (fun _ _ _ ha => ha)
    intro t b a' ha'
    refine .bind_lift (.any _) ?_ (fun _ _ _ => ha')
    intro u via _
    exact .change (ha'.congr rfl rfl rfl)

/-- What is known of an attempt at the end of the flow. -/
def Attempt.Closed (v : Except Failure Unit) (a : Attempt) : Prop :=
  match v with
  | .ok () => a.Complete
  | .error _ => a.UnderWay

theorem finish_closed (p : Patience) (bySite : Bool) (before : String) (h : a.Filling) :
    Flow.Ensures (finish p bySite before) a (fun _ v a' => Attempt.Closed v a') := by
  unfold finish
  refine .bind_advance (.bind (send_submitting p bySite h.submit) ?_ (fun _ _ _ ha => ha.toUnderWay))
  intro t _ b hb
  refine .bind_lift (.any _) ?_ (fun _ _ _ => hb.toUnderWay)
  intro u navigated _
  refine .bind_lift (.any _) ?_ (fun _ _ _ => hb.toUnderWay)
  intro w url _
  have hknown : ({ b with navigated := navigated, url := url } : Attempt).Submitting :=
    hb.congr rfl rfl rfl
  exact .bind_change (.advance hknown.complete)

theorem signIn_closed (p : Patience) (c : Credentials) (requested : Option Intent) :
    Flow.Ensures (signIn p c requested) { intent := requested }
      (fun _ v a' => Attempt.Closed v a') := by
  unfold signIn
  refine .bind (approach_filling p c requested (Attempt.underWay_fresh requested) rfl) ?_
    (fun _ _ _ ha => ha.1)
  rintro t standing b ⟨-, hfilling⟩
  refine .bind (fillIn_filling p c standing (hfilling rfl)) ?_ (fun _ _ _ ha => ha.toUnderWay)
  rintro u ⟨bySite, before⟩ b' hb'
  exact finish_closed p bySite before hb'

/-- Every attempt comes to its end with its record: it is complete, or it was under way and is marked as
failed. -/
theorem authenticate_ends (p : Patience) (c : Credentials) (requested : Option Intent) :
    (authenticate p c requested).Ensures (fun _ r => ∃ outcome a, r = .ok (outcome, a) ∧
      (outcome = .ok () ∧ a.Complete ∨
        ∃ (e : Failure) (b : Attempt), outcome = .error e ∧ b.UnderWay ∧ a = b.advance .failed)) := by
  unfold authenticate
  refine .bind (signIn_closed p c requested) ?_ ?_
  · rintro t ⟨v, b⟩ ⟨v', b', hr, hclosed⟩
    cases hr
    cases v with
    | ok u => exact ⟨.ok (), b, rfl, .inl ⟨rfl, hclosed⟩⟩
    | error e => exact ⟨.error e, b.advance .failed, rfl, .inr ⟨e, b, rfl, hclosed, rfl⟩⟩
  · rintro t e ⟨v, b, hr, -⟩
    cases hr

/-- Every attempt begins off the sign-in page, passes its stages in the order in which they are declared
and none twice, and ends in one last stage: done exactly when it succeeds, failed exactly when it does
not. An attempt that is done was on the sign-in page, filled in the fields and submitted them; it left
out the detection only where a known site had a strategy of its own. The stage of an attempt is the
last one of its record. -/
theorem authenticate_history (m : Machine) (page : String) (p : Patience) (c : Credentials)
    (requested : Option Intent) :
    ∃ outcome a m', (authenticate p c requested).run m page = (.ok (outcome, a), m') ∧
      a.history.head? = some .notOnAuthPage ∧
      a.history.Pairwise Stage.Before ∧
      (∃ last, a.history.getLast? = some last ∧ a.history.filter Stage.isEnd = [last]) ∧
      (a.history.getLast? = some .done ↔ outcome = .ok ()) ∧
      (a.history.getLast? = some .failed ↔ ∃ e, outcome = .error e) ∧
      (.done ∈ a.history →
        .onAuthPage ∈ a.history ∧ .fillingFields ∈ a.history ∧ .submitting ∈ a.history ∧
          (.detectingFormType ∉ a.history → a.strategy ≠ genericStrategy)) ∧
      a.history.getLast? = some a.stage := by
  obtain ⟨outcome, a, hrun, hend⟩ := (authenticate_ends p c requested).run m page
  refine ⟨outcome, a, _, Prod.ext hrun rfl, ?_⟩
  rcases hend with ⟨rfl, h⟩ | ⟨e, b, rfl, hb, rfl⟩
  · have hlast : a.history.getLast? = some .done := h.stage_eq ▸ h.stage_last
    refine ⟨h.starts, h.ascending, ⟨.done, hlast, h.one_end⟩, by simp [hlast], by simp [hlast], ?_,
      h.stage_last⟩
    intro _
    exact ⟨h.reached, h.filled, h.submitted, fun hno => h.explained.resolve_left hno⟩
  · have hdone : Stage.Before .done .failed := by decide
    have hbefore : b.stage.Before .failed := Nat.lt_trans hb.open_ hdone
    have h := hb.toInOrder.advance hbefore
    have hlast : (b.advance .failed).history.getLast? = some .failed := h.stage_last
    have hone := hb.ended (s := .failed) (by decide)
    refine ⟨h.starts, h.ascending, ⟨.failed, hlast, hone⟩, by simp [hlast], by simp [hlast], ?_,
      h.stage_last⟩
    intro hin
    have hmem : Stage.done ∈ (b.advance .failed).history.filter Stage.isEnd :=
      List.mem_filter.2 ⟨hin, rfl⟩
    rw [hone] at hmem
    cases List.mem_singleton.1 hmem

end BrowserScript.SignIn
