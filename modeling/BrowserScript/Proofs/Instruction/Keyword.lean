/-
BrowserScript.Proofs.Instruction.Keyword — no action without a keyword.

`Keyworded r marker line` says that a line asks for an action only by a phrase with words in it, and that a
line with another first word asks for nothing and is reported as unknown.

The check of an action looks at its first phrase only. An alias without words is taken, matches every line, and
decides those lines that no other phrase decides.

* `keyworded_of_aliases`: in a registry made from checked actions, every line is keyworded if no action has
  such an alias.
* `exists_unregistered_word`: there always is a word that begins no phrase and no comment. Among the words
  `a`, `aa`, `aaa` and so on, a registry has only finitely many.
* `parse_ne_unknownAction`: a line that some phrase matches is never reported as unknown.

Main statement: `keyworded_iff`. All lines are keyworded exactly when no action has an alias without words,
or all lines are comments.
-/
import BrowserScript.Proofs.Instruction.Registration
import BrowserScript.Proofs.Instruction.ReportedFailure
import Mathlib.Data.Finset.Preimage

namespace BrowserScript.Instruction

variable {η : Type} {r : Registry η} {marker line : String}

/-- A line asks for an action only by one of its phrases, which has words in it, and with parameters that the
action takes from the text after it. A line whose first word begins no phrase is reported as unknown. -/
structure Keyworded (r : Registry η) (marker line : String) : Prop where
  asked : ∀ request, parse r marker line = .ok request → request.isSkip = false →
    ∃ a phrase rest, r.lookup request.key = some a ∧ phrase ∈ a.phrases ∧ phrase ≠ [] ∧
      BeginsWith line phrase rest ∧ Takes a rest request.params
  unknown : ∀ word others, ignorable marker line = false → Text.wordsOf line = word :: others →
    (∀ entry ∈ r.phrases, entry.1.head? ≠ some (Text.lower word)) →
      parse r marker line = .error (.unknownAction word (Text.trim line))

/-! ## §1 Phrases with words -/

theorem phrases_ne_nil (h : ∀ a ∈ r.actions, [] ∉ a.aliases) : ∀ entry ∈ r.phrases, entry.1 ≠ [] := by
  rintro ⟨phrase, a⟩ hentry rfl
  obtain ⟨ha, hphrase⟩ := mem_phrases.1 hentry
  rcases List.mem_cons.1 hphrase with hnil | halias
  · exact a.phrase_ne_nil hnil.symm
  · exact h a ha halias

theorem wordsOf_trim (line : String) : Text.wordsOf (Text.trim line) = Text.wordsOf line := by
  rw [Text.wordsOf, Text.toList_trim, Text.words_trimChars, Text.wordsOf]

/-- A phrase with words matches only where its first word stands first. -/
theorem head?_of_phraseMatches {phrase : Phrase} {words : List String} (hne : phrase ≠ [])
    (h : phraseMatches phrase words = true) : phrase.head? = words.head? := by
  obtain ⟨rest, rfl⟩ := List.isPrefixOf_iff_prefix.1 h
  rw [List.head?_append_of_ne_nil _ hne]

/-- Where every phrase has words, a first word that begins none of them is unknown. -/
theorem candidates_eq_nil {word : String} {others : List String}
    (hphrases : ∀ entry ∈ r.phrases, entry.1 ≠ []) (hwords : Text.wordsOf line = word :: others)
    (hword : ∀ entry ∈ r.phrases, entry.1.head? ≠ some (Text.lower word)) :
    candidates r (matchWords (Text.trim line)) = [] := by
  rw [List.eq_nil_iff_forall_not_mem]
  intro entry hentry
  obtain ⟨hentry, hmatches⟩ := mem_candidates.1 hentry
  have hfirst := head?_of_phraseMatches (hphrases entry hentry) hmatches
  rw [matchWords, wordsOf_trim, hwords, List.map_cons, List.head?_cons] at hfirst
  exact hword entry hentry hfirst

theorem keyworded_of_aliases (hr : r.Built) (h : ∀ a ∈ r.actions, [] ∉ a.aliases) (marker line : String) :
    Keyworded r marker line where
  asked := by
    intro request hparse hasks
    obtain ⟨⟨phrase, a⟩, hentry, hmatches, hkey, htakes⟩ :=
      exists_entry_of_parse (counts_of_parse hparse hasks) hparse
    obtain ⟨ha, hphrase⟩ := mem_phrases.1 hentry
    have hne := phrases_ne_nil h _ hentry
    refine ⟨a, phrase, _, ?_, hphrase, hne, (beginsWith_iff hne).2 ⟨hmatches, rfl⟩, htakes⟩
    rw [← hkey]
    exact hr.lookup_eq ha
  unknown := by
    intro word others hcounts hwords hword
    have hnone := candidates_eq_nil (phrases_ne_nil h) hwords hword
    simp [parse, hcounts, hnone, wordsOf_trim, hwords]

/-! ## §2 Words that begin no phrase -/

/-- Small letters have no other lower case. -/
theorem lowerAfter_replicate {c : Char} (hc : c = 'a' ∨ c = 'b') (before : List Char) (n : Nat) :
    Text.lowerAfter before (List.replicate n c) = List.replicate n c := by
  have hletter : (c == '\u03a3') = false ∧ Text.lowerChar c = [c] := by
    rcases hc with rfl | rfl <;> decide
  induction n generalizing before with
  | zero => rfl
  | succ n ih =>
    rw [List.replicate_succ, Text.lowerAfter, hletter.1, hletter.2, ih]
    rfl

/-- One letter, again and again. -/
def repeated (c : Char) (n : Nat) : String := String.ofList (List.replicate n c)

theorem repeated_injective (c : Char) : Function.Injective (repeated c) := by
  intro m n h
  have hlist := congrArg String.toList h
  simpa [repeated] using congrArg List.length hlist

theorem lower_repeated {c : Char} (hc : c = 'a' ∨ c = 'b') (n : Nat) :
    Text.lower (repeated c n) = repeated c n := by
  rw [Text.lower, repeated, String.toList_ofList, Text.lowerChars, lowerAfter_replicate hc]

/-- A repeated letter with which the marker does not begin is a line of one word. -/
theorem counts_repeated {c : Char} (hc : c = 'a' ∨ c = 'b') (hmarker : marker ≠ "")
    (hfirst : marker.toList.head? ≠ some c) (n : Nat) :
    ignorable marker (repeated c (n + 1)) = false ∧
      Text.wordsOf (repeated c (n + 1)) = [repeated c (n + 1)] := by
  have hblank : Text.isBlank c = false := by
    rcases hc with rfl | rfl <;> decide
  have hnoBlank : ∀ d ∈ List.replicate (n + 1) c, Text.isBlank d = false := by
    intro d hd
    rw [(List.mem_replicate.1 hd).2, hblank]
  have htrim : Text.trim (repeated c (n + 1)) = repeated c (n + 1) := by
    rw [Text.trim, repeated, String.toList_ofList, Text.trimChars_eq_self]
    · exact fun d hd => hnoBlank d (List.mem_of_mem_head? hd)
    · exact fun d hd => hnoBlank d (List.mem_of_getLast? hd)
  constructor
  · have hne : repeated c (n + 1) ≠ "" := (repeated_injective c).ne (Nat.succ_ne_zero n)
    obtain ⟨m, ms, hm⟩ := List.exists_cons_of_ne_nil (fun h => hmarker (String.toList_eq_nil_iff.1 h))
    rw [hm, List.head?_cons, ne_eq, Option.some.injEq] at hfirst
    have hnoComment : Text.startsWith (repeated c (n + 1)) marker = false := by
      rw [Text.startsWith, hm, repeated, String.toList_ofList, List.replicate_succ]
      simp [List.isPrefixOf, hfirst]
    rw [ignorable, htrim]
    simp [hne, hnoComment]
  · rw [Text.wordsOf, repeated, String.toList_ofList, Text.words_of_noBlank (by simp) hnoBlank]
    rfl

/-- There always is a word that begins neither a phrase nor a comment. -/
theorem exists_unregistered_word (r : Registry η) (hmarker : marker ≠ "") :
    ∃ word, ignorable marker word = false ∧ Text.wordsOf word = [word] ∧
      ∀ entry ∈ r.phrases, entry.1.head? ≠ some (Text.lower word) := by
  have hletter : ∃ c, (c = 'a' ∨ c = 'b') ∧ marker.toList.head? ≠ some c := by
    by_cases ha : marker.toList.head? = some 'a'
    · exact ⟨'b', .inr rfl, by simp [ha]⟩
    · exact ⟨'a', .inl rfl, ha⟩
  obtain ⟨c, hc, hfirst⟩ := hletter
  have hinj : Function.Injective fun n => repeated c (n + 1) :=
    (repeated_injective c).comp Nat.succ_injective
  obtain ⟨n, hn⟩ := Infinite.exists_notMem_finset
    ((r.phrases.filterMap fun entry => entry.1.head?).toFinset.preimage _ hinj.injOn)
  rw [Finset.mem_preimage, List.mem_toFinset, List.mem_filterMap] at hn
  obtain ⟨hcounts, hwords⟩ := counts_repeated hc hmarker hfirst n
  refine ⟨repeated c (n + 1), hcounts, hwords, fun entry hentry hword => hn ⟨entry, hentry, ?_⟩⟩
  rwa [lower_repeated hc] at hword

/-! ## §3 Aliases without words -/

theorem parameters_ne_unknownAction (a : Action η) (rest word text : String) :
    parameters a rest ≠ .error (.unknownAction word text) := by
  unfold parameters
  split
  · split <;> nofun
  · dsimp only
    split <;> nofun

/-- A line that some phrase matches is never reported as unknown. -/
theorem parse_ne_unknownAction (hcounts : ignorable marker line = false)
    (hmatch : candidates r (matchWords (Text.trim line)) ≠ []) (word text : String) :
    parse r marker line ≠ .error (.unknownAction word text) := by
  rw [parse_eq_settle hcounts hmatch]
  rcases passed_or_reached (Text.trim line) (candidates r (matchWords (Text.trim line))) with
    hpassed | ⟨entry, hreached, hstays⟩
  · obtain ⟨entry, entries, hentries⟩ := List.exists_cons_of_ne_nil hmatch
    rw [hentries] at hpassed ⊢
    obtain ⟨hentry, hothers⟩ := List.forall_mem_cons.1 hpassed
    rw [settle_cons_of_passed hentry, settle_of_passed hothers]
    nofun
  · rw [settle_of_reached hreached hstays]
    exact parameters_ne_unknownAction _ _ _ _

/-- In a registry made from checked actions, every line asks for an action only by a phrase with words in it,
and is unknown where its first word begins none, exactly when no action has an alias without words, or all
lines are comments. -/
theorem keyworded_iff (hr : r.Built) :
    (∀ line, Keyworded r marker line) ↔ marker = "" ∨ ∀ a ∈ r.actions, [] ∉ a.aliases := by
  constructor
  · intro hall
    by_contra hneither
    rw [not_or] at hneither
    obtain ⟨hmarker, hnone⟩ := hneither
    push Not at hnone
    obtain ⟨a, ha, halias⟩ := hnone
    obtain ⟨word, hcounts, hwords, hword⟩ := exists_unregistered_word r hmarker
    have hentry : ([], a) ∈ candidates r (matchWords (Text.trim word)) :=
      mem_candidates.2 ⟨mem_phrases.2 ⟨ha, List.mem_cons_of_mem _ halias⟩, rfl⟩
    exact parse_ne_unknownAction hcounts (List.ne_nil_of_mem hentry) word (Text.trim word)
      ((hall word).unknown word [] hcounts hwords hword)
  · rintro (rfl | halias) line
    · have hignorable : ignorable "" line = true := by simp [ignorable, Text.startsWith]
      refine ⟨fun request hparse hasks => ?_, fun word others hcounts => ?_⟩
      · exact absurd (counts_of_parse hparse hasks) (by simp [hignorable])
      · exact absurd hcounts (by simp [hignorable])
    · exact keyworded_of_aliases hr halias marker line

/-- An action with its key as only word of its phrase, and with some aliases. -/
def named (key : String) (aliases : List Phrase) : ActionSpec Unit where
  key := key
  phrase := [key]
  handler := ()
  aliases := aliases

/-- What a registry holds after the check of `named`. -/
def checkedNamed (key : String) (aliases : List Phrase) : Action Unit where
  key := key
  phrase := [Text.lower key]
  handler := ()
  minParams := 0
  maxParams := 1
  usage := ""
  description := ""
  aliases := aliases.map Action.lowered
  opensNewPage := false
  phrase_ne_nil := List.cons_ne_nil _ _
  min_le_max := Nat.zero_le 1

theorem built_named (key : String) (aliases : List Phrase) :
    Registry.Built ⟨[checkedNamed key aliases], false⟩ :=
  .register .empty (show Action.ofSpec (named key aliases) = .ok _ from rfl) rfl

/-- An alias without words makes an action of a line with unknown words. -/
theorem parse_nameless :
    Registry.Built ⟨[checkedNamed "noop" [[]]], false⟩ ∧
      parse ⟨[checkedNamed "noop" [[]]], false⟩ "#" "fly away" = .ok ⟨"noop", []⟩ ∧
      ¬ Keyworded ⟨[checkedNamed "noop" [[]]], false⟩ "#" "fly away" := by
  have hnoop : phraseMatches ["noop"] (matchWords (Text.trim "fly away")) = false := by decide +kernel
  have hparse : parse ⟨[checkedNamed "noop" [[]]], false⟩ "#" "fly away" = .ok ⟨"noop", []⟩ := by
    have hreached : Reached (PassedOver (Text.trim "fly away")) ([], checkedNamed "noop" [[]])
        (candidates ⟨[checkedNamed "noop" [[]]], false⟩ (matchWords (Text.trim "fly away"))) := by
      refine reached_candidates.2 ⟨rfl, [(["noop"], checkedNamed "noop" [[]])], [], rfl, ?_, nofun⟩
      intro other hother hmatches
      rw [List.mem_singleton.1 hother, hnoop] at hmatches
      cases hmatches
    rw [parse_of_reached (by decide +kernel) hreached (fun hpassed => absurd hpassed.1 (by decide))]
    rfl
  refine ⟨built_named "noop" [[]], hparse, fun hkeyworded => ?_⟩
  obtain ⟨a, phrase, rest, hlookup, hphrase, hne, hbegins, -⟩ := hkeyworded.asked _ hparse (by decide)
  cases Option.some.inj (hlookup.symm.trans rfl)
  have hlower : Text.lower "noop" = "noop" := by decide +kernel
  have hsame : phrase = ["noop"] := by
    simpa [Action.phrases, checkedNamed, Action.lowered, hne, hlower] using hphrase
  have hmatches := ((beginsWith_iff hne).1 hbegins).1
  rw [hsame, hnoop] at hmatches
  cases hmatches

/-- An action with one more name. -/
theorem keyworded_iff_named :
    Registry.Built ⟨[checkedNamed "click" [["tap"]]], false⟩ ∧
      ∀ line, Keyworded ⟨[checkedNamed "click" [["tap"]]], false⟩ "#" line := by
  refine ⟨built_named "click" [["tap"]], (keyworded_iff (built_named "click" [["tap"]])).2 (.inr ?_)⟩
  intro a ha
  rw [List.mem_singleton.1 ha]
  decide

end BrowserScript.Instruction
