/-
BrowserScript.Proofs.Instruction.ReportedFailure — whose failure is reported when a line is not understood.

`Longest r line phrase a rest` says, of the registered phrases alone, that `phrase` of the action `a` is the
longest one that the line begins with, and of equally long ones the one registered first.

* `head?_candidates_iff`: the candidate tried first is the longest one.
* `settle_of_reached`, `settle_of_passed`: a search ends at the first candidate that is not passed over,
  whatever it says; when all are passed over, the failure of the first stands. By induction on the
  candidates.
* `parameters_of_passed`, `exists_missing`: a candidate that is passed over refuses the text that follows,
  any other one that fails misses parameters, so the two are told apart.
* `settle_reports_first_iff`: so it can be told when a search that fails reports its first candidate.

Main statement: `parse_reports_longest_iff`. A line that begins with a phrase and is not understood is
reported with the failure of the longest phrase exactly when this phrase does not give way, or when all do. A
longest phrase that gives way to one that takes parameters is never reported, even if that one fails too.
-/
import BrowserScript.Proofs.Instruction.LongestPhrase

namespace BrowserScript.Instruction

variable {η : Type}

/-! ## §1 The longest phrase -/

/-- The longest phrase that a line begins with, of equally long ones the one registered first, with its
action and what follows it. -/
structure Longest (r : Registry η) (line : String) (phrase : Phrase) (a : Action η) (rest : String) :
    Prop where
  begins : BeginsWith line phrase rest
  longest : ∃ before after, r.phrases = before ++ (phrase, a) :: after ∧
    (∀ other ∈ before, ∀ rest, BeginsWith line other.1 rest → other.1.length < phrase.length) ∧
    ∀ other ∈ after, ∀ rest, BeginsWith line other.1 rest → other.1.length ≤ phrase.length

/-- A search that passes over nothing looks at the first item only. -/
theorem reached_nothing_iff {α : Type} {x : α} {l : List α} :
    Reached (fun _ => False) x l ↔ l.head? = some x := by
  cases l <;> simp [Reached]

/-- What holds of the entries that the line begins with holds of those that match. -/
theorem forall_begins_iff {entries : List (Phrase × Action η)} (hne : ∀ entry ∈ entries, entry.1 ≠ [])
    {line : String} {Q : Phrase × Action η → Prop} :
    (∀ entry ∈ entries, ∀ rest, BeginsWith line entry.1 rest → Q entry) ↔
      ∀ entry ∈ entries, phraseMatches entry.1 (matchWords (Text.trim line)) = true → Q entry := by
  refine forall₂_congr fun entry hentry => ?_
  simp [beginsWith_iff (hne entry hentry)]

/-- The candidate tried first is the longest. -/
theorem head?_candidates_iff {r : Registry η} (hphrases : ∀ entry ∈ r.phrases, entry.1 ≠ [])
    {line rest : String} {phrase : Phrase} {a : Action η} :
    Longest r line phrase a rest ↔
      (candidates r (matchWords (Text.trim line))).head? = some (phrase, a) ∧
        rest = remainderAfter phrase (Text.trim line) := by
  rw [← reached_nothing_iff, reached_candidates]
  constructor
  · rintro ⟨hbegins, before, after, hsplit, hbefore, hafter⟩
    rw [hsplit, List.forall_mem_append, List.forall_mem_cons] at hphrases
    obtain ⟨hbeforeNe, hne, hafterNe⟩ := hphrases
    rw [forall_begins_iff hbeforeNe] at hbefore
    rw [forall_begins_iff hafterNe] at hafter
    obtain ⟨hfirst, hrest⟩ := (beginsWith_iff hne).1 hbegins
    refine ⟨⟨hfirst, before, after, hsplit, ?_, ?_⟩, hrest⟩
    · exact fun other hother h hlonger => Nat.not_lt.2 hlonger (hbefore other hother h)
    · exact fun other hother h hlonger => Nat.not_lt.2 (hafter other hother h) hlonger
  · rintro ⟨⟨hfirst, before, after, hsplit, hbefore, hafter⟩, hrest⟩
    rw [hsplit, List.forall_mem_append, List.forall_mem_cons] at hphrases
    obtain ⟨hbeforeNe, hne, hafterNe⟩ := hphrases
    refine ⟨(beginsWith_iff hne).2 ⟨hfirst, hrest⟩, before, after, hsplit, ?_, ?_⟩
    · exact (forall_begins_iff hbeforeNe).2 fun other hother h => Nat.not_le.1 (hbefore other hother h)
    · exact (forall_begins_iff hafterNe).2 fun other hother h => Nat.not_lt.1 (hafter other hother h)

/-! ## §2 Where the search ends -/

section Search

variable {text : String} {first : Option ParseFailure} {entry : Phrase × Action η}
  {entries : List (Phrase × Action η)}

/-- What a candidate refuses that is passed over. -/
theorem parameters_of_passed (h : PassedOver text entry) :
    parameters entry.2 (remainderAfter entry.1 text)
      = .error (.takesNoParameters entry.2.key (remainderAfter entry.1 text) entry.2.usage) := by
  simp [parameters, h.1, h.2]

theorem settle_cons_of_passed (h : PassedOver text entry) :
    settle text first (entry :: entries) = settle text
      (some (first.getD (.takesNoParameters entry.2.key (remainderAfter entry.1 text) entry.2.usage)))
      entries := by
  simp [settle, parameters_of_passed h, h.1, h.2]

theorem not_passedOver_iff :
    ¬ PassedOver text entry ↔ 0 < entry.2.maxParams ∨ remainderAfter entry.1 text = "" := by
  rw [PassedOver, not_and_or, Decidable.not_not, Nat.pos_iff_ne_zero]

theorem settle_cons_of_not_passed (h : ¬ PassedOver text entry) :
    settle text first (entry :: entries) = parameters entry.2 (remainderAfter entry.1 text) := by
  simp only [settle]
  split
  · rename_i hok
    rw [hok]
  · rename_i failure herror
    rw [herror, if_pos (by simpa using not_passedOver_iff.1 h)]

/-- The first candidate that is not passed over decides, whatever was said before. -/
theorem settle_of_reached (h : Reached (PassedOver text) entry entries) (hentry : ¬ PassedOver text entry) :
    settle text first entries = parameters entry.2 (remainderAfter entry.1 text) := by
  induction entries generalizing first with
  | nil => exact h.elim
  | cons other entries ih =>
    rcases h with rfl | ⟨hpassed, h⟩
    · exact settle_cons_of_not_passed hentry
    · rw [settle_cons_of_passed hpassed]
      exact ih h

/-- When all candidates are passed over, what was said before stands. -/
theorem settle_of_passed {failure : ParseFailure} (h : ∀ entry ∈ entries, PassedOver text entry) :
    settle text (some failure) entries = .error failure := by
  induction entries with
  | nil => rfl
  | cons entry entries ih =>
    obtain ⟨hentry, h⟩ := List.forall_mem_cons.1 h
    rw [settle_cons_of_passed hentry]
    exact ih h

theorem passed_or_reached (text : String) (entries : List (Phrase × Action η)) :
    (∀ entry ∈ entries, PassedOver text entry) ∨
      ∃ entry, Reached (PassedOver text) entry entries ∧ ¬ PassedOver text entry := by
  induction entries with
  | nil => exact .inl nofun
  | cons entry entries ih =>
    by_cases hentry : PassedOver text entry
    · rcases ih with h | ⟨found, hfound, hstays⟩
      · exact .inl (List.forall_mem_cons.2 ⟨hentry, h⟩)
      · exact .inr ⟨found, .inr ⟨hentry, hfound⟩, hstays⟩
    · exact .inr ⟨entry, .inl rfl, hentry⟩

/-- A candidate that is not passed over fails only for want of parameters. -/
theorem exists_missing {failure : ParseFailure} (hentry : ¬ PassedOver text entry)
    (h : parameters entry.2 (remainderAfter entry.1 text) = .error failure) :
    ∃ got, failure = .missingParameters entry.2.key entry.2.minParams got entry.2.usage := by
  by_cases hmax : entry.2.maxParams = 0
  · have hrest := (not_passedOver_iff.1 hentry).resolve_left (Nat.not_lt.2 (Nat.le_of_eq hmax))
    simp [parameters, hmax, hrest] at h
  · simp only [parameters, beq_iff_eq, if_neg hmax] at h
    split at h
    · cases h
      exact ⟨_, rfl⟩
    · cases h

/-- When a search fails, the failure is that of the first candidate exactly if this one is not passed over, or
if all are. -/
theorem settle_reports_first_iff {failure : ParseFailure}
    (hfails : settle text none (entry :: entries) = .error failure) :
    parameters entry.2 (remainderAfter entry.1 text) = .error failure ↔
      ¬ PassedOver text entry ∨ ∀ other ∈ entry :: entries, PassedOver text other := by
  by_cases hpassed : PassedOver text entry
  · have hrefuses := parameters_of_passed hpassed
    rw [settle_cons_of_passed hpassed] at hfails
    rcases passed_or_reached text entries with hothers | ⟨found, hfound, hstays⟩
    · rw [settle_of_passed hothers] at hfails
      cases hfails
      exact iff_of_true hrefuses (.inr (List.forall_mem_cons.2 ⟨hpassed, hothers⟩))
    · -- another candidate decides, and it fails in the other way
      rw [settle_of_reached hfound hstays] at hfails
      obtain ⟨got, rfl⟩ := exists_missing hstays hfails
      refine iff_of_false ?_ ?_
      · rw [hrefuses]
        nofun
      · rintro (hdecides | hall)
        · exact hdecides hpassed
        · exact hstays (hall found (List.mem_cons_of_mem _ hfound.mem))
  · rw [settle_cons_of_not_passed hpassed] at hfails
    exact iff_of_true hfails (.inl hpassed)

end Search

/-! ## §3 Lines that are not understood -/

theorem parse_eq_settle {r : Registry η} {marker line : String} (hcounts : ignorable marker line = false)
    (hmatch : candidates r (matchWords (Text.trim line)) ≠ []) :
    parse r marker line
      = settle (Text.trim line) none (candidates r (matchWords (Text.trim line))) := by
  simp only [parse, hcounts, Bool.false_eq_true, if_false]

/-- The first candidate that is not passed over decides what becomes of a line. -/
theorem parse_of_reached {r : Registry η} {marker line : String} {entry : Phrase × Action η}
    (hcounts : ignorable marker line = false)
    (hreached : Reached (PassedOver (Text.trim line)) entry (candidates r (matchWords (Text.trim line))))
    (hstays : ¬ PassedOver (Text.trim line) entry) :
    parse r marker line = parameters entry.2 (remainderAfter entry.1 (Text.trim line)) := by
  rw [parse_eq_settle hcounts (List.ne_nil_of_mem hreached.mem), settle_of_reached hreached hstays]

/-- Where every phrase is registered once, the longest phrase at the beginning of a line decides what becomes of
the line, if its action takes parameters at all. -/
theorem parse_eq_parameters {r : Registry η} {marker line rest : String} {phrase : Phrase} {a : Action η}
    (hunique : (r.phrases.map Prod.fst).Nodup) (hentry : (phrase, a) ∈ r.phrases) (hne : phrase ≠ [])
    (hcounts : ignorable marker line = false) (hbegins : BeginsWith line phrase rest)
    (hlongest : ∀ other ∈ r.phrases, phraseMatches other.1 (matchWords (Text.trim line)) = true →
      other.1.length ≤ phrase.length)
    (hsome : 0 < a.maxParams) : parse r marker line = parameters a rest := by
  obtain ⟨hmatches, rfl⟩ := (beginsWith_iff hne).1 hbegins
  exact parse_of_reached hcounts (reached_longest hunique hentry hmatches hlongest _)
    (not_passedOver_iff.2 (.inl hsome))

/-- A line that begins with a phrase has a longest one. When the line is not understood, the failure that is
reported is the one of the longest phrase exactly when this phrase does not give way, or when every phrase
does. -/
theorem parse_reports_longest_iff {r : Registry η} {marker line : String} {failure : ParseFailure}
    (hphrases : ∀ entry ∈ r.phrases, entry.1 ≠ []) (hcounts : ignorable marker line = false)
    (hmatch : ∃ entry ∈ r.phrases, ∃ rest, BeginsWith line entry.1 rest)
    (hfails : parse r marker line = .error failure) :
    (∃ phrase a rest, Longest r line phrase a rest) ∧
      ∀ phrase a rest, Longest r line phrase a rest →
        (parameters a rest = .error failure ↔
          (0 < a.maxParams ∨ rest = "") ∨ ∀ entry ∈ r.phrases, GivesWay line entry) := by
  have hne : candidates r (matchWords (Text.trim line)) ≠ [] := by
    obtain ⟨entry, hentry, rest, hbegins⟩ := hmatch
    have hmatches := ((beginsWith_iff (hphrases entry hentry)).1 hbegins).1
    exact List.ne_nil_of_mem (mem_candidates.2 ⟨hentry, hmatches⟩)
  rw [parse_eq_settle hcounts hne] at hfails
  constructor
  · obtain ⟨⟨phrase, a⟩, hfirst⟩ := Option.isSome_iff_exists.1 (List.isSome_head?.2 hne)
    exact ⟨phrase, a, _, (head?_candidates_iff hphrases).2 ⟨hfirst, rfl⟩⟩
  · intro phrase a rest hlongest
    obtain ⟨hfirst, rfl⟩ := (head?_candidates_iff hphrases).1 hlongest
    obtain ⟨others, hentries⟩ := List.head?_eq_some_iff.1 hfirst
    have hallGiveWay : (∀ entry ∈ r.phrases, GivesWay line entry) ↔
        ∀ entry ∈ candidates r (matchWords (Text.trim line)), PassedOver (Text.trim line) entry := by
      simp only [mem_candidates, and_imp]
      refine forall₂_congr fun entry hentry => givesWay_iff (hphrases entry hentry)
    have hdecides : (0 < a.maxParams ∨ remainderAfter phrase (Text.trim line) = "") ↔
        ¬ PassedOver (Text.trim line) (phrase, a) := by rw [not_passedOver_iff]
    rw [hallGiveWay, hentries, hdecides]
    exact settle_reports_first_iff (hentries ▸ hfails)

/-- A phrase that takes nothing, and a shorter one that takes two parameters. -/
def reloads : Registry Unit where
  actions := [
    waiting "reload" ["reload", "page"] 0 nofun,
    waiting "reloadTarget" ["reload"] 2 nofun]
  frozen := true

theorem reloads_phrases_ne_nil : ∀ entry ∈ reloads.phrases, entry.1 ≠ [] := by
  simp [reloads, waiting, Registry.phrases, Action.phrases]

theorem longest_reloads : Longest reloads "reload page two" ["reload", "page"]
    (waiting "reload" ["reload", "page"] 0 nofun) "two" where
  begins := (beginsWith_iff (List.cons_ne_nil _ _)).2 ⟨by decide +kernel, by decide +kernel⟩
  longest := by
    refine ⟨[], [(["reload"], waiting "reloadTarget" ["reload"] 2 nofun)], rfl, nofun, ?_⟩
    intro other hother rest _
    rw [List.mem_singleton.1 hother]
    decide

theorem parse_reloads :
    parse reloads "#" "reload page two" = .error (.missingParameters "reloadTarget" 2 1 "") := by
  have hreached : Reached (PassedOver (Text.trim "reload page two"))
      (["reload"], waiting "reloadTarget" ["reload"] 2 nofun)
      (candidates reloads (matchWords (Text.trim "reload page two"))) := by
    refine reached_candidates.2 ⟨by decide +kernel,
      [(["reload", "page"], waiting "reload" ["reload", "page"] 0 nofun)], [], rfl, ?_, nofun⟩
    intro other hother _ _
    rw [List.mem_singleton.1 hother]
    exact ⟨rfl, by decide +kernel⟩
  rw [parse_of_reached (by decide +kernel) hreached (fun hpassed => absurd hpassed.1 (by decide))]
  decide +kernel

/-- The longest phrase refuses what follows it, the shorter one that it gives way to lacks a parameter, and
the shorter one is reported. -/
theorem parse_reports_shorter :
    (∀ entry ∈ reloads.phrases, entry.1 ≠ []) ∧ ignorable "#" "reload page two" = false ∧
      Longest reloads "reload page two" ["reload", "page"]
        (waiting "reload" ["reload", "page"] 0 nofun) "two" ∧
      parameters (waiting "reload" ["reload", "page"] 0 nofun) "two"
        = .error (.takesNoParameters "reload" "two" "") ∧
      parse reloads "#" "reload page two" = .error (.missingParameters "reloadTarget" 2 1 "") :=
  ⟨reloads_phrases_ne_nil, by decide +kernel, longest_reloads, by decide +kernel, parse_reloads⟩

/-- That shorter phrase does not give way, which is why the longest is not reported. -/
theorem parse_reports_longest_reloads :
    (∀ entry ∈ reloads.phrases, entry.1 ≠ []) ∧ ignorable "#" "reload page two" = false ∧
      (∃ entry ∈ reloads.phrases, ∃ rest, BeginsWith "reload page two" entry.1 rest) ∧
      parse reloads "#" "reload page two" = .error (.missingParameters "reloadTarget" 2 1 "") ∧
      ¬ ∀ entry ∈ reloads.phrases, GivesWay "reload page two" entry := by
  have hcounts : ignorable "#" "reload page two" = false := by decide +kernel
  have hmatch : ∃ entry ∈ reloads.phrases, ∃ rest, BeginsWith "reload page two" entry.1 rest :=
    ⟨(["reload", "page"], waiting "reload" ["reload", "page"] 0 nofun), List.mem_cons_self, _,
      longest_reloads.begins⟩
  have hreports := (parse_reports_longest_iff reloads_phrases_ne_nil hcounts hmatch parse_reloads).2 _ _ _
    longest_reloads
  refine ⟨reloads_phrases_ne_nil, hcounts, hmatch, parse_reloads, fun hall => ?_⟩
  have hrefuses : parameters (waiting "reload" ["reload", "page"] 0 nofun) "two"
      = .error (.takesNoParameters "reload" "two" "") := by decide +kernel
  have hlongest := hreports.2 (.inr hall)
  rw [hrefuses] at hlongest
  cases hlongest

end BrowserScript.Instruction
