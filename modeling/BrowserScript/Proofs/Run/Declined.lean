/-
BrowserScript.Proofs.Run.Declined — what is declined changes nothing.

An instruction declines what it was given when its target is not found, a reference has no value, a file is
not there or a parameter cannot be used. None of this is a failure of the browser: what a described browser
has in store are mishaps (`worldOf_mishap`), so whoever declines is the action itself. It does so while it
has only read (`considerate_builtIn`), and reading changes nothing but the log (`Script.run_reads`).

Main statement: `runOne_declined`. `runOne_declined_select` is an instruction that declines an option.
-/
import BrowserScript.Proofs.Run.LostSession
import BrowserScript.Proofs.Vocabulary.Raising

namespace BrowserScript

open Browser

/-! ## §1 What a browser may say -/

namespace Browser.Description

open Failure (Mishap)

/-- A failure in a description is one of the surroundings. -/
theorem failureOf_mishap (v : Value) : (failureOf v).Mishap := by
  obtain ⟨text, h | h | h | ⟨ofValue, h⟩⟩ := failureOf_cases v <;> rw [h] <;> rfl

/-- Every browser that is described has only mishaps in store. -/
theorem worldOf_mishap (v : Value) : (worldOf v).FailsOnly Mishap := worldOf_failsOnly failureOf_mishap v

end Browser.Description

/-- Mishaps in store are told as mishaps, whatever a script asks; only references to secrets may be declined
outside of the script. -/
theorem Browser.Script.transcript_undeclined {α : Type} {s : Script α} {m : Machine}
    (h : m.world.FailsOnly Failure.Mishap) (page : String) : Undeclined (s.transcript m page) := by
  intro x hx hpublic
  refine Script.transcript_within ⟨fun _ => rfl, fun _ => rfl⟩ h page s x hx ?_
  intro parameter hsecret
  rw [hsecret] at hpublic
  cases hpublic

namespace Run

open Instruction Vocabulary

/-! ## §2 One line -/

variable {m m' : Machine} {line : String} {a : Action Handler} {params : List String} {e : Failure}

/-- Let a line ask for a built-in action, in a browser that has only mishaps in store. If the action declines
what it was given, the line is recorded as failed, and all that it has done to the browser is to write
requests into the log that only read: probes, look-ups of elements and options, and searches by text. Pages,
the list of open pages and cookies are the same as before. -/
theorem runOne_declined {reading : Registry Handler} {marker : String}
    (hasks : Asks ⟨frozenVocabulary, reading, marker⟩ line a params)
    (hstore : m.world.FailsOnly Failure.Mishap) (hrun : handled m a params = (.error e, m'))
    (hdeclines : e.declines = true) :
    ∃ own, Runner.runOne ⟨frozenVocabulary, reading, marker⟩ m line
        = (.ok { instruction := Text.trim line, success := false, error := failureText e,
                 action := a.key }, m') ∧
      m'.world = { m.world with log := m.world.log ++ own } ∧ ∀ entry ∈ own, entry.reads = true := by
  obtain ⟨key, -, hlookup⟩ := hasks.request
  obtain ⟨spec, hspec, hhandler⟩ := exists_spec hlookup
  have hconsiderate : (a.handler m.config.toSettings params).Considerate := by
    rw [hhandler]
    exact considerate_builtIn spec hspec _ _
  let own := (exchanges m a params).filterMap (Exchange.entry? (sync m).tab.current)
  have htold : Undeclined (exchanges m a params) := Script.transcript_undeclined (m := sync m) hstore _
  have hreads : ∀ x ∈ exchanges m a params, x.question.reads = true :=
    hconsiderate.ensures.run (sync m) (sync m).tab.current htold e (congrArg Prod.fst hrun) hdeclines
  have hlog : m'.world.log = m.world.log ++ own := by
    rw [show m' = (handled m a params).2 by rw [hrun]]
    exact Script.run_log _ _ _
  obtain ⟨log, hsame⟩ := Script.run_reads hreads
  have hworld : m'.world = { m.world with log := log } := by
    rw [show m' = (handled m a params).2 by rw [hrun], handled, hsame]
    rfl
  refine ⟨own, (Recorded.failed hasks hrun).runOne_eq, ?_, ?_⟩
  · rw [← hlog, hworld]
  · intro entry hentry
    obtain ⟨x, hx, hwritten⟩ := List.mem_filterMap.1 hentry
    exact Question.reads_of_entry (hreads x hx) entry hwritten

/-- The action that chooses an option. -/
def choosing : Action Handler := (frozenVocabulary.lookup "selectOption").get (by decide +kernel)

theorem choosing_handler : choosing.handler = selectOption := by rfl

/-- A page on which a colour can be chosen. -/
def colours : Machine := showing [("Colour", { options := [(.text "r", .text "Red")] })]

theorem asks_choosing :
    Asks (Runner.of frozenVocabulary {}) "select Colour, Purple" choosing ["Colour", "Purple"] :=
  asks_of_parse (by decide +kernel) (by decide +kernel) (Option.some_get _).symm

/-- There is no such option. The element and its options were looked up, and nothing was chosen. -/
theorem runOne_declined_select :
    ∃ e o m', colours.world.FailsOnly Failure.Mishap ∧
      handled colours choosing ["Colour", "Purple"] = (.error e, m') ∧ e.declines = true ∧
      (Runner.of frozenVocabulary {}).runOne colours "select Colour, Purple" = (.ok o, m') ∧
      o.error = "ValueError: No option with value or label 'Purple' in Colour" ∧
      m'.world.pages = colours.world.pages := by
  have hresult : (handled colours choosing ["Colour", "Purple"]).1
      = .error (.input (.noOption "Purple" "Colour")) := by
    unfold handled
    rw [choosing_handler]
    rfl
  have hfails : handled colours choosing ["Colour", "Purple"]
      = (.error (.input (.noOption "Purple" "Colour")), (handled colours choosing ["Colour", "Purple"]).2) :=
    Prod.ext hresult rfl
  have hpage : ∀ p ∈ colours.world.pages, p.FailsOnly Failure.Mishap := by
    intro p hp
    rw [List.mem_singleton.1 hp]
    refine ⟨fun x hx => ?_, nofun, nofun, nofun⟩
    rw [List.mem_singleton.1 hx]
    nofun
  have hstore : colours.world.FailsOnly Failure.Mishap := ⟨hpage, nofun, nofun⟩
  obtain ⟨own, hrun, hworld, -⟩ := runOne_declined asks_choosing hstore hfails rfl
  exact ⟨_, _, _, hstore, hfails, rfl, hrun, by decide +kernel, by rw [hworld]⟩

end Run
end BrowserScript
