/-
BrowserScript.Proofs.Run.Validation — checking lines and running them.

A check reads every line on its own. A run trims the line, reads it, looks the key up again and then carries
the action out, which may fail for reasons of its own. The outcome shows which of this happened: the key for
skipped lines, no key for lines that could not be read, and otherwise the key of the action.

* `exists_action_of_parse`: the key of a line that was understood is that of a registered action.
* `mem_parseFailures`: what a check reports.
* `Recorded.agrees`: an outcome says of its line what reading it says, in a vocabulary in which no action has
  one of the two keys for lines without an action.

Main statement: `run_agrees_with_check`, for the built-in vocabulary and any run that gives outcomes.
-/
import BrowserScript.Proofs.Instruction.LongestPhrase
import BrowserScript.Proofs.Instruction.Registration
import BrowserScript.Proofs.Run.EveryLine

namespace BrowserScript

/-! ## §1 What a check reports -/

namespace Instruction

variable {η : Type} {r : Registry η} {marker line key : String} {a : Action η}

/-- What was understood asks for a registered action and has parameters that this one takes. -/
theorem exists_takes_of_parse {request : Request} (hcounts : ignorable marker line = false)
    (h : parse r marker line = .ok request) :
    ∃ b ∈ r.actions, b.key = request.key ∧ ∃ rest, Takes b rest request.params := by
  obtain ⟨entry, hentry, -, hkey, htakes⟩ := exists_entry_of_parse hcounts h
  exact ⟨entry.2, (mem_phrases.1 hentry).1, hkey, _, htakes⟩

theorem exists_action_of_parse {request : Request} (hcounts : ignorable marker line = false)
    (h : parse r marker line = .ok request) : ∃ b ∈ r.actions, b.key = request.key := by
  obtain ⟨b, hb, hkey, -⟩ := exists_takes_of_parse hcounts h
  exact ⟨b, hb, hkey⟩

/-- A check reports the lines that cannot be read, each with its number. -/
theorem mem_parseFailures {lines : List String} {number : Nat} {text : String} {failure : ParseFailure} :
    (number, text, failure) ∈ parseFailures r marker lines ↔
      ∃ i line, lines[i]? = some line ∧ number = i + 1 ∧ text = Text.trim line ∧
        parse r marker line = .error failure := by
  unfold parseFailures
  rw [List.mem_filterMap]
  constructor
  · rintro ⟨⟨line, i⟩, hline, hfailure⟩
    have hline := List.mem_zipIdx_iff_getElem?.1 hline
    cases hparse : parse r marker line with
    | ok request =>
      simp only [hparse] at hfailure
      cases hfailure
    | error found =>
      simp only [hparse] at hfailure
      cases hfailure
      exact ⟨i, line, hline, rfl, rfl, hparse⟩
  · rintro ⟨i, line, hline, rfl, rfl, hparse⟩
    exact ⟨(line, i), List.mem_zipIdx_iff_getElem?.2 hline, by simp only [hparse]⟩

end Instruction

namespace Run

open Browser Instruction Vocabulary

/-! ## §2 What a run records -/

/-- Actions that cannot be mistaken, in an outcome, for a line without an action. -/
def Proper (v : Registry Handler) : Prop := ∀ a ∈ v.actions, a.key ≠ "" ∧ a.key ≠ skipKey

/-- An outcome says of its line what reading it says: that it asks for nothing, why it cannot be read, or
which action it asks for. -/
structure Agrees (v : Registry Handler) (marker line : String) (o : Outcome) : Prop where
  skips : o.action = skipKey ↔ ignorable marker line = true
  success : o.action = skipKey → o.success = true
  fails (reason : String) : (∃ failure, parse v marker line = .error failure ∧ failure.reason = reason) ↔
    o.success = false ∧ o.action = "" ∧ o.error = reason
  asks : ignorable marker line = false → ∀ request, parse v marker line = .ok request →
    o.action = request.key

variable {v : Registry Handler} {marker line : String} {m m' : Machine} {o : Outcome}

/-- An outcome with the key of an action, for a line that asks for it. -/
theorem agrees_of_asks {a : Action Handler} {params : List String} (hv : Proper v)
    (h : Asks ⟨v, v, marker⟩ line a params) (ho : o.action = a.key) : Agrees v marker line o := by
  obtain ⟨hcounts, key, hparse, hlookup⟩ := h
  rw [ignorable_trim] at hcounts
  rw [parse_trim] at hparse
  obtain ⟨hnamed, hnoSkip⟩ := hv a (List.mem_of_find?_eq_some hlookup)
  rw [← ho] at hnamed hnoSkip
  refine ⟨?_, fun hskip => absurd hskip hnoSkip, ?_, ?_⟩
  · simp [hnoSkip, hcounts]
  · intro reason
    simp [hnamed, hparse]
  · intro _ request hrequest
    cases hparse.symm.trans hrequest
    exact ho.trans (Registry.lookup_key hlookup)

theorem Recorded.agrees (hv : Proper v) (h : Recorded ⟨v, v, marker⟩ m line o m') :
    Agrees v marker line o := by
  cases h with
  | skipped hskip =>
    rw [ignorable_trim] at hskip
    refine ⟨by simp [hskip], fun _ => rfl, ?_, by simp [hskip]⟩
    intro reason
    simp [parse_of_ignorable hskip]
  | unreadable hcounts hparse =>
    rw [ignorable_trim] at hcounts
    rw [parse_trim] at hparse
    refine ⟨by simp [hcounts, skipKey], fun hskip => absurd hskip (by simp [skipKey]), ?_, ?_⟩
    · intro reason
      simp [hparse]
    · intro _ request hrequest
      cases hparse.symm.trans hrequest
  | unknown hcounts hparse hlookup =>
    -- A key that was read is registered, so this does not happen.
    rw [ignorable_trim] at hcounts
    rw [parse_trim] at hparse
    obtain ⟨a, ha, hkey⟩ := exists_action_of_parse hcounts hparse
    obtain ⟨b, hb, -⟩ := Registry.exists_lookup ha
    rw [← hkey, hb] at hlookup
    cases hlookup
  | failed hasks _ => exact agrees_of_asks hv hasks rfl
  | succeeded hasks _ _ => exact agrees_of_asks hv hasks rfl
  | opened hasks _ _ _ => exact agrees_of_asks hv hasks rfl

/-- In a run that gives outcomes, the lines are recorded one after the other. -/
theorem recordedAll_of_run {r : Runner} {lines : List String} {os : List Outcome}
    (hrun : r.run m lines = (.ok os, m')) : RecordedAll r m lines os m' := by
  rcases recordedAll_or_pauseEscapesIn r m lines with ⟨os', m₁, hall⟩ | ⟨e, hpause⟩
  · cases hall.run_eq.symm.trans hrun
    exact hall
  · obtain ⟨m₁, hraised⟩ := hpause.run_eq
    cases hrun.symm.trans hraised

theorem RecordedAll.agrees {lines : List String} {os : List Outcome} (hv : Proper v)
    (h : RecordedAll ⟨v, v, marker⟩ m lines os m') {i : Nat} (hline : lines[i]? = some line)
    (ho : os[i]? = some o) : Agrees v marker line o := by
  induction h generalizing i with
  | nil m => cases hline
  | cons hfirst _ ih =>
    cases i with
    | zero =>
      cases hline
      cases ho
      exact hfirst.agrees hv
    | succ i => exact ih hline ho

/-! ## §3 The built-in vocabulary -/

theorem proper_frozenVocabulary : Proper frozenVocabulary := by
  have hall : frozenVocabulary.actions.all (fun a => a.key != "" && a.key != skipKey) = true := by
    decide +kernel
  intro a ha
  simpa using List.all_eq_true.1 hall a ha

/-- The lines that a check reports, as they are shown: number, trimmed text and reason. -/
def reported (marker : String) (lines : List String) : List (Nat × String × String) :=
  (parseFailures frozenVocabulary marker lines).map (fun x => (x.1, x.2.1, x.2.2.reason))

theorem mem_reported {lines : List String} {i : Nat} {reason : String} (hline : lines[i]? = some line) :
    (i + 1, Text.trim line, reason) ∈ reported marker lines ↔
      ∃ failure, parse frozenVocabulary marker line = .error failure ∧ failure.reason = reason := by
  unfold reported
  rw [List.mem_map]
  constructor
  · rintro ⟨⟨number, text, failure⟩, hmem, heq⟩
    cases heq
    obtain ⟨j, other, hother, hnumber, -, hparse⟩ := mem_parseFailures.1 hmem
    cases Nat.succ.inj hnumber
    cases hline.symm.trans hother
    exact ⟨failure, hparse, rfl⟩
  · rintro ⟨failure, hparse, rfl⟩
    exact ⟨(i + 1, Text.trim line, failure), mem_parseFailures.2 ⟨i, line, hline, rfl, rfl, hparse⟩, rfl⟩

/-- A run that gives outcomes agrees with a check of its lines. A line is recorded as skipped exactly when it
asks for nothing, and that is a success; it is recorded as a failure without an action exactly when the check
reports it, with the same reason; and otherwise under the key that reading it gives. So no line fails to be
read in a run after a check that reports nothing, and every key that is read leads to an action. -/
theorem run_agrees_with_check {lines : List String} {os : List Outcome}
    (hrun : Runner.run ⟨frozenVocabulary, frozenVocabulary, marker⟩ m lines = (.ok os, m')) :
    os.length = lines.length ∧
      (∀ i line o, lines[i]? = some line → os[i]? = some o →
        (o.action = skipKey ↔ ignorable marker line = true) ∧
          (o.action = skipKey → o.success = true) ∧
          (∀ reason, (i + 1, Text.trim line, reason) ∈ reported marker lines ↔
            o.success = false ∧ o.action = "" ∧ o.error = reason) ∧
          (ignorable marker line = false → ∀ request,
            parse frozenVocabulary marker line = .ok request → o.action = request.key)) ∧
      (reported marker lines = [] → ∀ o ∈ os, ¬ (o.success = false ∧ o.action = "")) ∧
      ∀ line request, ignorable marker line = false →
        parse frozenVocabulary marker line = .ok request →
          ∃ a, frozenVocabulary.lookup request.key = some a ∧ a.key = request.key := by
  have hall := recordedAll_of_run hrun
  have hlength : os.length = lines.length := by
    simpa using congrArg List.length hall.instructions_eq
  have hagrees : ∀ i line o, lines[i]? = some line → os[i]? = some o →
      Agrees frozenVocabulary marker line o :=
    fun i line o hline ho => hall.agrees proper_frozenVocabulary hline ho
  refine ⟨hlength, ?_, ?_, ?_⟩
  · intro i line o hline ho
    have hagree := hagrees i line o hline ho
    exact ⟨hagree.skips, hagree.success, fun reason => (mem_reported hline).trans (hagree.fails reason),
      hagree.asks⟩
  · rintro hclean o ho ⟨hfailure, hunnamed⟩
    obtain ⟨i, hi, rfl⟩ := List.mem_iff_getElem.1 ho
    have hline := List.getElem?_eq_getElem (hlength ▸ hi : i < lines.length)
    have hagree := hagrees i _ _ hline (List.getElem?_eq_getElem hi)
    have hreported := (mem_reported hline).2 ((hagree.fails _).2 ⟨hfailure, hunnamed, rfl⟩)
    rw [hclean] at hreported
    cases hreported
  · intro line request hcounts hparse
    obtain ⟨a, ha, hkey⟩ := exists_action_of_parse hcounts hparse
    rw [← hkey]
    exact Registry.exists_lookup ha

/-- A browser with one blank page. -/
def blank : Machine where
  disk := { entries := [], current := [], environment := [] }
  config := {}
  world := { pages := [{ name := "main" }], context := ["main"] }
  tab := .on "main" true

/-- A comment, a line that cannot be read, and a key that is pressed. -/
theorem run_agrees_with_check_fly :
    ∃ os m', Runner.run ⟨frozenVocabulary, frozenVocabulary, "#"⟩ blank ["# note", " fly away", "press Enter"]
        = (.ok os, m') ∧
      (2, "fly away", "Unknown action: 'fly' in instruction: fly away")
        ∈ reported "#" ["# note", " fly away", "press Enter"] ∧
      ∃ o, os[1]? = some o ∧ o.success = false ∧ o.action = "" ∧
        o.error = "Unknown action: 'fly' in instruction: fly away" := by
  have hok : (Runner.run ⟨frozenVocabulary, frozenVocabulary, "#"⟩ blank
      ["# note", " fly away", "press Enter"]).1.isOk = true := by decide +kernel
  have hreported : (2, "fly away", "Unknown action: 'fly' in instruction: fly away")
      ∈ reported "#" ["# note", " fly away", "press Enter"] := by decide +kernel
  rcases hrun : Runner.run ⟨frozenVocabulary, frozenVocabulary, "#"⟩ blank
      ["# note", " fly away", "press Enter"] with ⟨e | os, m'⟩
  · rw [hrun] at hok
    cases hok
  · obtain ⟨hlength, hlines, -, -⟩ := run_agrees_with_check hrun
    have hsecond : 1 < os.length := by rw [hlength]; decide
    have ho := List.getElem?_eq_getElem hsecond
    obtain ⟨-, -, hfails, -⟩ := hlines 1 " fly away" _ rfl ho
    have htext : Text.trim " fly away" = "fly away" := by decide +kernel
    rw [htext] at hfails
    exact ⟨os, m', rfl, hreported, _, ho, (hfails _).1 hreported⟩

end Run
end BrowserScript
