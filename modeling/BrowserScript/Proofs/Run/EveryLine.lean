/-
BrowserScript.Proofs.Run.EveryLine — every line gets its outcome.

A line is recorded (`Recorded`) in one of six ways: it asks for nothing, it cannot be read, its action is
not there, the action fails, or it succeeds without or with a pause after it. Whatever goes wrong in the
action itself is part of the record.

* `recorded_or_pauseEscapes`: a line that is not recorded is one after which the pause fails
  (`PauseFails`); every other failure is caught.
* `recordedAll_or_pauseEscapesIn`: the same of all lines, by induction over them.

Main statement: `run_records_iff`. A run gives one outcome for each line, in the order of the lines,
exactly when no such pause fails in it. `run_raises` is a run in which one does: it takes the outcomes of
all lines with it.
-/
import BrowserScript.Proofs.Browser.Transcript
import BrowserScript.Run.Runner

namespace BrowserScript.Run

open Browser Instruction Vocabulary

/-! ## §1 The pause -/

/-- How the pause after an action that may open a page fails. -/
inductive PauseFails (m : Machine) : Failure → Prop
  | tooLong (hlong : 0 < m.config.settle)
      (hseconds : Number.Binary64.quotient? m.config.settle 1000 = none) :
      PauseFails m (.ordinary .quotientTooLarge)
  | refused {seconds : Number.Binary64} {e : Failure} (hlong : 0 < m.config.settle)
      (hseconds : Number.Binary64.quotient? m.config.settle 1000 = some seconds)
      (hplanned : planned m.world.plan ["sleep"] = some e) : PauseFails m e

/-- The pause fails with what is planned for it, and where it is too long for a number. -/
theorem settleNewPage_eq_error (m : Machine) (e : Failure) :
    (settleNewPage m).1 = .error e ↔ PauseFails m e := by
  unfold settleNewPage settleSeconds
  by_cases hlong : m.config.settle ≤ 0
  · rw [if_pos hlong]
    constructor
    · nofun
    · intro h
      cases h <;> omega
  · rw [if_neg hlong]
    have hlong : 0 < m.config.settle := Int.not_le.1 hlong
    cases hseconds : Number.Binary64.quotient? m.config.settle 1000 with
    | none =>
      constructor
      · intro h
        cases h
        exact .tooLong hlong hseconds
      · intro h
        cases h with
        | tooLong _ _ => rfl
        | refused _ hsome _ => cases hseconds.symm.trans hsome
    | some seconds =>
      have hrefused : planned m.world.plan ["sleep"] = some e ↔ PauseFails m e := by
        constructor
        · exact fun hplanned => .refused hlong hseconds hplanned
        · intro h
          cases h with
          | tooLong _ hnone => cases hseconds.symm.trans hnone
          | refused _ _ hplanned => exact hplanned
      have hasked := (m.askContext_eq_error (.sleep seconds) e).trans hrefused
      rcases hask : m.askContext (.sleep seconds) with ⟨e' | _, m₁⟩
      · rw [hask] at hasked
        simp only [hask]
        exact hasked
      · rw [hask] at hasked
        simp only [hask]
        exact ⟨nofun, fun h => nomatch hasked.2 h⟩

/-! ## §2 One line -/

/-- What a line asks for. -/
structure Asks (r : Runner) (line : String) (a : Action Handler) (params : List String) : Prop where
  counts : ignorable r.marker (Text.trim line) = false
  request : ∃ key, parse r.reading r.marker (Text.trim line) = .ok ⟨key, params⟩ ∧
    r.actions.lookup key = some a

/-- An action carried out on the page that is active then. -/
def handled (m : Machine) (a : Action Handler) (params : List String) :
    Except Failure Value × Machine :=
  (a.handler m.config.toSettings params).run (sync m) (sync m).tab.current

/-- What is exchanged while an action is carried out. -/
def exchanges (m : Machine) (a : Action Handler) (params : List String) : List Exchange :=
  (a.handler m.config.toSettings params).transcript (sync m) (sync m).tab.current

/-- How a line is recorded, and the machine after it. -/
inductive Recorded (r : Runner) (m : Machine) (line : String) : Outcome → Machine → Prop
  | skipped (hskip : ignorable r.marker (Text.trim line) = true) :
      Recorded r m line { instruction := Text.trim line, success := true, action := skipKey } m
  | unreadable {failure : ParseFailure} (hcounts : ignorable r.marker (Text.trim line) = false)
      (hparse : parse r.reading r.marker (Text.trim line) = .error failure) :
      Recorded r m line
        { instruction := Text.trim line, success := false, error := failure.reason } (sync m)
  | unknown {request : Request} (hcounts : ignorable r.marker (Text.trim line) = false)
      (hparse : parse r.reading r.marker (Text.trim line) = .ok request)
      (hlookup : r.actions.lookup request.key = none) :
      Recorded r m line
        { instruction := Text.trim line, success := false, error := "Unknown action: " ++ request.key }
        (sync m)
  | failed {a : Action Handler} {params : List String} {e : Failure} {m' : Machine}
      (hasks : Asks r line a params) (hrun : handled m a params = (.error e, m')) :
      Recorded r m line
        { instruction := Text.trim line, success := false, error := failureText e, action := a.key } m'
  | succeeded {a : Action Handler} {params : List String} {value : Value} {m' : Machine}
      (hasks : Asks r line a params) (hrun : handled m a params = (.ok value, m'))
      (hstays : a.opensNewPage = false) :
      Recorded r m line
        { instruction := Text.trim line, success := true, result := value, action := a.key } m'
  | opened {a : Action Handler} {params : List String} {value : Value} {m₁ m' : Machine}
      (hasks : Asks r line a params) (hrun : handled m a params = (.ok value, m₁))
      (hopens : a.opensNewPage = true) (hpause : settleNewPage m₁ = (.ok (), m')) :
      Recorded r m line
        { instruction := Text.trim line, success := true, result := value, action := a.key } m'

/-- The pause after the action of a line fails. -/
def PauseEscapes (r : Runner) (m : Machine) (line : String) (e : Failure) : Prop :=
  ∃ a params value m₁, Asks r line a params ∧ handled m a params = (.ok value, m₁) ∧
    a.opensNewPage = true ∧ PauseFails m₁ e

variable {r : Runner} {m m' : Machine} {line : String} {o : Outcome} {e : Failure}

theorem Recorded.instruction_eq (h : Recorded r m line o m') : o.instruction = Text.trim line := by
  cases h <;> rfl

/-- A line that asks for an action is carried out by it. -/
theorem runOne_of_asks {a : Action Handler} {params : List String} (h : Asks r line a params) :
    r.runOne m line = perform (sync m) (Text.trim line) a params := by
  obtain ⟨hcounts, key, hparse, hlookup⟩ := h
  simp only [Runner.runOne, hcounts, hparse, hlookup, Bool.false_eq_true, if_false]

/-- A line asks for one thing at most. -/
theorem Asks.unique {a b : Action Handler} {params params' : List String} (h : Asks r line a params)
    (h' : Asks r line b params') : a = b ∧ params = params' := by
  obtain ⟨-, key, hparse, hlookup⟩ := h
  obtain ⟨-, key', hparse', hlookup'⟩ := h'
  cases hparse.symm.trans hparse'
  exact ⟨Option.some.inj (hlookup.symm.trans hlookup'), rfl⟩

theorem asks_of_parse {key : String} {a : Action Handler} {params : List String}
    (hcounts : ignorable r.marker (Text.trim line) = false)
    (hparse : (parse r.reading r.marker (Text.trim line)).toOption = some ⟨key, params⟩)
    (hlookup : r.actions.lookup key = some a) : Asks r line a params := by
  refine ⟨hcounts, key, ?_, hlookup⟩
  cases hresult : parse r.reading r.marker (Text.trim line) with
  | error failure =>
    rw [hresult] at hparse
    cases hparse
  | ok request =>
    rw [hresult] at hparse
    rw [Option.some.inj hparse]

/-- Every line is recorded without an action, or it asks for one. -/
theorem recorded_or_asks (r : Runner) (m : Machine) (line : String) :
    (∃ o m', Recorded r m line o m') ∨ ∃ a params, Asks r line a params := by
  cases hskip : ignorable r.marker (Text.trim line) with
  | true => exact .inl ⟨_, _, .skipped hskip⟩
  | false =>
    cases hparse : parse r.reading r.marker (Text.trim line) with
    | error failure => exact .inl ⟨_, _, .unreadable hskip hparse⟩
    | ok request =>
      cases hlookup : r.actions.lookup request.key with
      | none => exact .inl ⟨_, _, .unknown hskip hparse hlookup⟩
      | some a => exact .inr ⟨a, request.params, hskip, request.key, hparse, hlookup⟩

/-- Every line is recorded, unless the pause after its action fails. -/
theorem recorded_or_pauseEscapes (r : Runner) (m : Machine) (line : String) :
    (∃ o m', Recorded r m line o m') ∨ ∃ e, PauseEscapes r m line e := by
  rcases recorded_or_asks r m line with hrecorded | ⟨a, params, hasks⟩
  · exact .inl hrecorded
  rcases hrun : handled m a params with ⟨e | value, m₁⟩
  · exact .inl ⟨_, _, .failed hasks hrun⟩
  cases hopens : a.opensNewPage with
  | false => exact .inl ⟨_, _, .succeeded hasks hrun hopens⟩
  | true =>
    rcases hpause : settleNewPage m₁ with ⟨e | _, m₂⟩
    · exact .inr ⟨e, a, params, value, m₁, hasks, hrun, hopens,
        (settleNewPage_eq_error m₁ e).1 (congrArg Prod.fst hpause)⟩
    · exact .inl ⟨_, _, .opened hasks hrun hopens hpause⟩

theorem perform_eq (m : Machine) (text : String) (a : Action Handler) (params : List String) :
    perform (sync m) text a params = match handled m a params with
      | (.error e, m₁) =>
        (.ok { instruction := text, success := false, error := failureText e, action := a.key }, m₁)
      | (.ok value, m₁) =>
        if a.opensNewPage then
          match settleNewPage m₁ with
          | (.ok (), m₂) =>
            (.ok { instruction := text, success := true, result := value, action := a.key }, m₂)
          | (.error e, m₂) => (.error e, m₂)
        else (.ok { instruction := text, success := true, result := value, action := a.key }, m₁) :=
  rfl

theorem Recorded.runOne_eq (h : Recorded r m line o m') : r.runOne m line = (.ok o, m') := by
  cases h with
  | skipped hskip => simp only [Runner.runOne, hskip, if_true]
  | unreadable hcounts hparse =>
    simp only [Runner.runOne, hcounts, hparse, Bool.false_eq_true, if_false]
  | unknown hcounts hparse hlookup =>
    simp only [Runner.runOne, hcounts, hparse, hlookup, Bool.false_eq_true, if_false]
  | failed hasks hrun => rw [runOne_of_asks hasks, perform_eq, hrun]
  | succeeded hasks hrun hstays =>
    rw [runOne_of_asks hasks, perform_eq, hrun, hstays]
    rfl
  | opened hasks hrun hopens hpause =>
    simp only [runOne_of_asks hasks, perform_eq, hrun, hopens, hpause, if_true]

theorem PauseEscapes.runOne_eq (h : PauseEscapes r m line e) :
    ∃ m', r.runOne m line = (.error e, m') := by
  obtain ⟨a, params, value, m₁, hasks, hrun, hopens, hpause⟩ := h
  have hsettle : settleNewPage m₁ = (.error e, (settleNewPage m₁).2) :=
    Prod.ext ((settleNewPage_eq_error m₁ e).2 hpause) rfl
  refine ⟨(settleNewPage m₁).2, ?_⟩
  simp only [runOne_of_asks hasks, perform_eq, hrun, hopens, if_true]
  rw [hsettle]

/-! ## §3 All lines -/

/-- How lines are recorded one after the other, and the machine after all of them. -/
inductive RecordedAll (r : Runner) : Machine → List String → List Outcome → Machine → Prop
  | nil (m : Machine) : RecordedAll r m [] [] m
  | cons {m m₁ m' : Machine} {line : String} {rest : List String} {o : Outcome} {os : List Outcome}
      (hline : Recorded r m line o m₁) (hrest : RecordedAll r m₁ rest os m') :
      RecordedAll r m (line :: rest) (o :: os) m'

/-- The pause after the action of one of the lines fails, after the lines before it were recorded. -/
def PauseEscapesIn (r : Runner) (m : Machine) (lines : List String) (e : Failure) : Prop :=
  ∃ done line rest os m₁, lines = done ++ line :: rest ∧ RecordedAll r m done os m₁ ∧
    PauseEscapes r m₁ line e

variable {lines rest : List String} {os : List Outcome}

theorem run_cons_of_error {m₁ : Machine} (hline : r.runOne m line = (.error e, m₁)) (rest : List String) :
    r.run m (line :: rest) = (.error e, m₁) := by
  simp only [Runner.run, hline]

/-- The rest of the lines runs on the machine that the first one leaves behind. -/
theorem run_cons_of_ok {m₁ : Machine} (hline : r.runOne m line = (.ok o, m₁)) (rest : List String) :
    r.run m (line :: rest) = ((r.run m₁ rest).1.map (o :: ·), (r.run m₁ rest).2) := by
  simp only [Runner.run, hline]
  rcases r.run m₁ rest with ⟨e | os, m₂⟩
  · rfl
  · rfl

theorem RecordedAll.instructions_eq (h : RecordedAll r m lines os m') :
    os.map (·.instruction) = lines.map Text.trim := by
  induction h with
  | nil m => rfl
  | cons hline _ ih => rw [List.map_cons, List.map_cons, hline.instruction_eq, ih]

theorem RecordedAll.run_eq (h : RecordedAll r m lines os m') : r.run m lines = (.ok os, m') := by
  induction h with
  | nil m => rfl
  | cons hline _ ih =>
    rw [run_cons_of_ok hline.runOne_eq, ih]
    rfl

theorem PauseEscapesIn.run_eq (h : PauseEscapesIn r m lines e) :
    ∃ m', r.run m lines = (.error e, m') := by
  obtain ⟨done, line, rest, os, m₁, rfl, hdone, hpause⟩ := h
  induction hdone with
  | nil m =>
    obtain ⟨m', hline⟩ := hpause.runOne_eq
    exact ⟨m', run_cons_of_error hline _⟩
  | cons hline _ ih =>
    obtain ⟨m', hrest⟩ := ih hpause
    refine ⟨m', ?_⟩
    rw [List.cons_append, run_cons_of_ok hline.runOne_eq, hrest]
    rfl

/-- All lines are recorded, unless a pause fails among them. -/
theorem recordedAll_or_pauseEscapesIn (r : Runner) (m : Machine) (lines : List String) :
    (∃ os m', RecordedAll r m lines os m') ∨ ∃ e, PauseEscapesIn r m lines e := by
  induction lines generalizing m with
  | nil => exact .inl ⟨[], m, .nil m⟩
  | cons line rest ih =>
    rcases recorded_or_pauseEscapes r m line with ⟨o, m₁, hline⟩ | ⟨e, hpause⟩
    · rcases ih m₁ with ⟨os, m', hrest⟩ | ⟨e, done, next, later, os, m₂, hsplit, hdone, hpause⟩
      · exact .inl ⟨o :: os, m', .cons hline hrest⟩
      · refine .inr ⟨e, line :: done, next, later, o :: os, m₂, ?_, .cons hline hdone, hpause⟩
        rw [hsplit, List.cons_append]
    · exact .inr ⟨e, [], line, rest, [], m, rfl, .nil m, hpause⟩

/-- An action that succeeds and may open a page. -/
def opening : Action Handler where
  key := "open"
  phrase := ["open"]
  handler := fun _ _ => .done .null
  minParams := 0
  maxParams := 0
  usage := ""
  description := ""
  aliases := []
  opensNewPage := true
  phrase_ne_nil := List.cons_ne_nil _ _
  min_le_max := Nat.le_refl _

end BrowserScript.Run
