/-
BrowserScript.Proofs.Instruction.LongestPhrase — which action a line asks for.

`BeginsWith line phrase rest` says, of the text of a line alone, that it begins with a phrase and that
`rest` follows. `Takes a rest params` is the rule by which an action takes its parameters from that text.

Main statement: `parse_eq_ok_iff`. A line asks for an action with some parameters exactly when it begins
with one of its phrases, the action takes these parameters from the rest, and every matching phrase that
comes before, being longer or equally long and registered earlier, gives way: its action takes nothing
and yet something follows.

* `reached_mergeSort`: what stands before an item in a sorted list, known without sorting. By induction
  on the list: sorting with one more item puts it somewhere into the sorted list.
* `beginsWith_iff`: the words of the trimmed line and what follows them decide how the line begins.
* `settle_eq_ok_iff`: the first candidate that does not give way decides.
* `parse_of_longest`: where every phrase is registered once, the longest that matches decides as soon as its
  action takes what follows.
-/
import BrowserScript.Instruction.Parser
import BrowserScript.Proofs.Text.Words

namespace BrowserScript.Instruction

/-! ## §1 The order of candidates -/

section Order

variable {α : Type} {G : α → Prop} {x : α}

/-- Whether a search comes to `x` when it passes over what has `G`. -/
def Reached (G : α → Prop) (x : α) : List α → Prop
  | [] => False
  | y :: rest => y = x ∨ (G y ∧ Reached G x rest)

theorem reached_append (l₁ l₂ : List α) :
    Reached G x (l₁ ++ l₂) ↔ Reached G x l₁ ∨ ((∀ y ∈ l₁, G y) ∧ Reached G x l₂) := by
  induction l₁ with
  | nil => simp [Reached]
  | cons a l₁ ih =>
    simp only [List.cons_append, Reached, ih, List.forall_mem_cons]
    rw [and_or_left, or_assoc, and_assoc]

theorem Reached.mem {l : List α} (h : Reached G x l) : x ∈ l := by
  induction l with
  | nil => exact h.elim
  | cons a l ih =>
    rcases h with rfl | ⟨-, h⟩
    · exact List.mem_cons_self
    · exact List.mem_cons_of_mem a (ih h)

/-- A place in a list with one more item in front. -/
theorem exists_split_cons {B A : α → Prop} {a : α} {l : List α} :
    (∃ before after, a :: l = before ++ x :: after ∧ (∀ y ∈ before, B y) ∧ ∀ y ∈ after, A y) ↔
      (a = x ∧ ∀ y ∈ l, A y) ∨
        (B a ∧ ∃ before after, l = before ++ x :: after ∧ (∀ y ∈ before, B y) ∧ ∀ y ∈ after, A y) := by
  constructor
  · rintro ⟨_ | ⟨b, before⟩, after, hl, hB, hA⟩
    · injection hl with hax hl
      exact .inl ⟨hax, hl ▸ hA⟩
    · injection hl with hab hl
      have hB := List.forall_mem_cons.1 hB
      exact .inr ⟨hab ▸ hB.1, before, after, hl, hB.2, hA⟩
  · rintro (⟨rfl, hA⟩ | ⟨ha, before, after, rfl, hB, hA⟩)
    · exact ⟨[], l, rfl, nofun, hA⟩
    · exact ⟨a :: before, after, rfl, List.forall_mem_cons.2 ⟨ha, hB⟩, hA⟩

/-- A search through the sorted list comes to `x` exactly when it passes over all items that come before
`x`: of those listed earlier the ones that need not stand after it, of those listed later the ones that
must stand before it. -/
theorem reached_mergeSort {le : α → α → Bool} (htrans : ∀ a b c : α, le a b → le b c → le a c)
    (htotal : ∀ a b : α, le a b || le b a) (l : List α) :
    Reached G x (l.mergeSort le) ↔
      ∃ before after, l = before ++ x :: after ∧ (∀ y ∈ before, le y x = true → G y) ∧
        ∀ y ∈ after, le x y = false → G y := by
  induction l with
  | nil => simp [Reached]
  | cons a l ih =>
    obtain ⟨l₁, l₂, hwith, hwithout, hl₁⟩ := List.mergeSort_cons htrans htotal a l
    have hl₂ : ∀ b ∈ l₂, le a b = true := by
      have hsorted := List.pairwise_mergeSort htrans htotal (a :: l)
      rw [hwith] at hsorted
      exact (List.pairwise_cons.1 (List.pairwise_append.1 hsorted).2.1).1
    have hmem : ∀ y, y ∈ l ↔ y ∈ l₁ ∨ y ∈ l₂ := by
      intro y
      rw [← @List.mem_mergeSort _ le, hwithout, List.mem_append]
    rw [exists_split_cons, ← ih, hwith, hwithout, reached_append, reached_append, Reached]
    constructor
    · rintro (hx | ⟨hG, rfl | ⟨ha, hx⟩⟩)
      · have hax : le a x = false := by simpa using hl₁ x hx.mem
        exact .inr ⟨fun h => (Bool.false_ne_true (hax.symm.trans h)).elim, .inl hx⟩
      · refine .inl ⟨rfl, ?_⟩
        intro y hy hle
        rcases (hmem y).1 hy with hy | hy
        · exact hG y hy
        · exact (Bool.false_ne_true (hle.symm.trans (hl₂ y hy))).elim
      · exact .inr ⟨fun _ => ha, .inr ⟨hG, hx⟩⟩
    · rintro (⟨rfl, hG⟩ | ⟨ha, hx | ⟨hG, hx⟩⟩)
      · refine .inr ⟨?_, .inl rfl⟩
        intro y hy
        exact hG y ((hmem y).2 (.inl hy)) (by simpa using hl₁ y hy)
      · exact .inl hx
      · exact .inr ⟨hG, .inr ⟨ha (hl₂ x hx.mem), hx⟩⟩

/-- A place in a filtered list is a place in the whole list. -/
theorem exists_filter_split {B A : α → Prop} {p : α → Bool} (l : List α) :
    (∃ before after, l.filter p = before ++ x :: after ∧ (∀ y ∈ before, B y) ∧ ∀ y ∈ after, A y) ↔
      p x = true ∧ ∃ before after, l = before ++ x :: after ∧ (∀ y ∈ before, p y = true → B y) ∧
        ∀ y ∈ after, p y = true → A y := by
  induction l with
  | nil => simp
  | cons a l ih =>
    cases hp : p a with
    | false =>
      rw [List.filter_cons_of_neg (by simp [hp]), ih, exists_split_cons]
      constructor
      · rintro ⟨hx, hl⟩
        exact ⟨hx, .inr ⟨fun h => (Bool.false_ne_true (hp.symm.trans h)).elim, hl⟩⟩
      · rintro ⟨hx, ⟨rfl, -⟩ | ⟨-, hl⟩⟩
        · exact (Bool.false_ne_true (hp.symm.trans hx)).elim
        · exact ⟨hx, hl⟩
    | true =>
      rw [List.filter_cons_of_pos hp, exists_split_cons, ih, exists_split_cons]
      simp only [List.mem_filter, hp, true_implies, and_imp]
      constructor
      · rintro (⟨rfl, hA⟩ | ⟨ha, hx, hl⟩)
        · exact ⟨hp, .inl ⟨rfl, hA⟩⟩
        · exact ⟨hx, .inr ⟨ha, hl⟩⟩
      · rintro ⟨hx, ⟨rfl, hA⟩ | ⟨ha, hl⟩⟩
        · exact .inl ⟨rfl, hA⟩
        · exact .inr ⟨ha, hx, hl⟩

end Order

variable {η : Type}

/-! ## §2 How a line begins -/

/-- The words of a text as they are matched. -/
def loweredWords (cs : List Char) : Phrase := (Text.words cs).map (fun w => Text.lower (String.ofList w))

/-- A line begins with a phrase, word by word and in any case, and what follows is `rest` when blanks at
its ends are disregarded. -/
inductive BeginsWith (line : String) : Phrase → String → Prop
  | cut {front tail : List Char} (hline : line.toList = front ++ tail) (hbreaks : Text.Breaks tail) :
      BeginsWith line (loweredWords front) (String.ofList (Text.trimChars tail))

theorem matchWords_trim (line : String) : matchWords (Text.trim line) = loweredWords line.toList := by
  unfold matchWords Text.wordsOf loweredWords
  rw [Text.toList_trim, Text.words_trimChars, List.map_map]
  rfl

theorem remainderAfter_trim {phrase : Phrase} (hne : phrase ≠ []) {line : String}
    (hlength : phrase.length ≤ (Text.words line.toList).length) :
    remainderAfter phrase (Text.trim line)
      = String.ofList (Text.trimChars (Text.afterWords phrase.length line.toList)) := by
  have hpos : 0 < phrase.length := List.length_pos_iff.2 hne
  rw [remainderAfter, if_neg (by simpa using hne), Text.toList_trim,
    Text.trimChars_afterWords_trimChars hpos hlength]

/-- The words of the trimmed line and what follows them decide how the line begins. -/
theorem beginsWith_iff {phrase : Phrase} (hne : phrase ≠ []) {line rest : String} :
    BeginsWith line phrase rest ↔
      phraseMatches phrase (matchWords (Text.trim line)) = true ∧
        rest = remainderAfter phrase (Text.trim line) := by
  rw [phraseMatches, matchWords_trim, List.isPrefixOf_iff_prefix]
  constructor
  · rintro ⟨hline, hbreaks⟩
    rename_i front tail
    have hwords : Text.words line.toList = Text.words front ++ Text.words tail := by
      rw [hline, Text.words_append front hbreaks]
    have hlength : (loweredWords front).length = (Text.words front).length := List.length_map _
    refine ⟨?_, ?_⟩
    · rw [loweredWords, loweredWords, hwords, List.map_append]
      exact List.prefix_append _ _
    · rw [remainderAfter_trim hne (by rw [hlength, hwords, List.length_append]; omega), hlength,
        hline, Text.trimChars_afterWords_append hbreaks]
  · rintro ⟨hstart, rfl⟩
    have hlength : phrase.length ≤ (Text.words line.toList).length := by
      simpa [loweredWords] using hstart.length_le
    obtain ⟨front, hline, hfront, hbreaks⟩ :=
      Text.exists_cut_afterWords (List.length_pos_iff.2 hne) hlength
    have hphrase : loweredWords front = phrase := by
      rw [loweredWords, hfront, List.map_take]
      exact (List.prefix_iff_eq_take.1 hstart).symm
    rw [remainderAfter_trim hne hlength]
    have hcut := BeginsWith.cut hline hbreaks
    rwa [hphrase] at hcut

/-! ## §3 What an action takes -/

/-- The parameters that an action takes from the text after its phrase: none from no text, or at least as
many as it must have, none of these empty. -/
inductive Takes (a : Action η) (rest : String) : List String → Prop
  | nothing (hnone : a.maxParams = 0) (hrest : rest = "") : Takes a rest []
  | list (hsome : 0 < a.maxParams) (henough : a.minParams ≤ (parameterList a.maxParams rest).length)
      (hfull : ∀ p ∈ (parameterList a.maxParams rest).take a.minParams, p ≠ "") :
      Takes a rest (parameterList a.maxParams rest)

theorem Takes.minParams_le {a : Action η} {rest : String} {params : List String} (h : Takes a rest params) :
    a.minParams ≤ params.length := by
  cases h with
  | nothing hnone => exact Nat.le_trans a.min_le_max (Nat.le_of_eq hnone)
  | list _ henough => exact henough

/-- An action that needs no more parameters than there are, none of them empty, takes them when they are in the
text. -/
theorem takes_iff {a : Action η} {rest : String} {params : List String} (hsome : 0 < a.maxParams)
    (hmin : a.minParams ≤ params.length) (hfull : ∀ p ∈ params, p ≠ "") :
    Takes a rest params ↔ parameterList a.maxParams rest = params := by
  constructor
  · intro h
    cases h with
    | nothing hnone => omega
    | list => rfl
  · intro h
    have htakes : Takes a rest (parameterList a.maxParams rest) := by
      refine .list hsome (by rw [h]; exact hmin) ?_
      intro p hp
      rw [h] at hp
      exact hfull p (List.mem_of_mem_take hp)
    rwa [h] at htakes

theorem parameters_eq_ok_iff {a : Action η} {rest : String} {request : Request} :
    parameters a rest = .ok request ↔ a.key = request.key ∧ Takes a rest request.params := by
  rcases request with ⟨key, params⟩
  unfold parameters
  by_cases hmax : a.maxParams = 0
  · rw [if_pos (by simpa using hmax)]
    by_cases hrest : rest = ""
    · rw [if_pos (by simpa using hrest)]
      constructor
      · intro h
        cases h
        exact ⟨rfl, .nothing hmax hrest⟩
      · rintro ⟨hkey, h⟩
        cases h with
        | nothing => rw [hkey]
        | list hsome => omega
    · rw [if_neg (by simpa using hrest)]
      constructor
      · nofun
      · rintro ⟨-, h⟩
        cases h with
        | nothing _ hempty => exact absurd hempty hrest
        | list hsome => omega
  · rw [if_neg (by simpa using hmax)]
    dsimp only
    split
    · rename_i hshort
      constructor
      · nofun
      · rintro ⟨-, h⟩
        cases h with
        | nothing hnone => exact absurd hnone hmax
        | list _ henough hfull =>
          rcases Bool.or_eq_true _ _ ▸ hshort with hshort | hempty
          · exact absurd (of_decide_eq_true hshort) (Nat.not_lt.2 henough)
          · obtain ⟨p, hp, hpempty⟩ := List.any_eq_true.1 hempty
            exact absurd (by simpa using hpempty) (hfull p hp)
    · rename_i hlong
      simp only [Bool.or_eq_true, decide_eq_true_eq, List.any_eq_true, not_or, not_exists] at hlong
      constructor
      · intro h
        cases h
        refine ⟨rfl, .list (Nat.pos_of_ne_zero hmax) (Nat.not_lt.1 hlong.1) ?_⟩
        exact fun p hp hempty => hlong.2 p ⟨hp, by simpa using hempty⟩
      · rintro ⟨hkey, h⟩
        cases h with
        | nothing hnone => exact absurd hnone hmax
        | list => rw [hkey]

/-! ## §4 Lines -/

/-- It does not matter whether a line is trimmed before it is looked at. -/
theorem ignorable_trim (marker line : String) :
    ignorable marker (Text.trim line) = ignorable marker line := by
  rw [ignorable, ignorable, Text.trim_trim]

theorem parse_trim (r : Registry η) (marker line : String) :
    parse r marker (Text.trim line) = parse r marker line := by
  rw [parse, parse, ignorable_trim, Text.trim_trim]

theorem parse_of_ignorable {r : Registry η} {marker line : String} (h : ignorable marker line = true) :
    parse r marker line = .ok .skip := by
  rw [parse, if_pos h]

/-- A line that asks for something is not ignorable. -/
theorem counts_of_parse {r : Registry η} {marker line : String} {request : Request}
    (h : parse r marker line = .ok request) (hasks : request.isSkip = false) :
    ignorable marker line = false := by
  by_contra hignorable
  rw [Bool.not_eq_false] at hignorable
  rw [parse_of_ignorable hignorable] at h
  cases h
  cases hasks

/-- Whether a candidate is passed over. -/
def PassedOver (text : String) (entry : Phrase × Action η) : Prop :=
  entry.2.maxParams = 0 ∧ remainderAfter entry.1 text ≠ ""

theorem PassedOver.parameters_ne_ok {text : String} {entry : Phrase × Action η}
    (h : PassedOver text entry) (request : Request) :
    parameters entry.2 (remainderAfter entry.1 text) ≠ .ok request := by
  rcases request with ⟨key, params⟩
  intro hok
  cases (parameters_eq_ok_iff.1 hok).2 with
  | nothing _ hrest => exact h.2 hrest
  | list hsome => exact absurd h.1 (Nat.ne_of_gt hsome)

/-- The first candidate that is not passed over decides. -/
theorem settle_eq_ok_iff {text : String} {first : Option ParseFailure}
    {entries : List (Phrase × Action η)} {request : Request} :
    settle text first entries = .ok request ↔
      ∃ entry, Reached (PassedOver text) entry entries ∧
        parameters entry.2 (remainderAfter entry.1 text) = .ok request := by
  induction entries generalizing first with
  | nil => simp [settle, Reached]
  | cons entry entries ih =>
    cases hparams : parameters entry.2 (remainderAfter entry.1 text) with
    | ok understood =>
      have hsettle : settle text first (entry :: entries) = .ok understood := by
        simp only [settle, hparams]
      rw [hsettle, ← hparams]
      constructor
      · exact fun h => ⟨entry, .inl rfl, h⟩
      · rintro ⟨_, rfl | ⟨hpassed, -⟩, h⟩
        · exact h
        · exact absurd hparams (hpassed.parameters_ne_ok understood)
    | error failure =>
      by_cases hpassed : PassedOver text entry
      · have hsettle : settle text first (entry :: entries)
            = settle text (some (first.getD failure)) entries := by
          simp only [settle, hparams]
          exact if_neg (by simp [hpassed.1, hpassed.2])
        rw [hsettle, ih]
        constructor
        · rintro ⟨found, hfound, h⟩
          exact ⟨found, .inr ⟨hpassed, hfound⟩, h⟩
        · rintro ⟨found, rfl | ⟨-, hfound⟩, h⟩
          · exact absurd h (hpassed.parameters_ne_ok request)
          · exact ⟨found, hfound, h⟩
      · have hsettle : settle text first (entry :: entries) = .error failure := by
          simp only [settle, hparams]
          refine if_pos ?_
          simp only [PassedOver, not_and_or, Decidable.not_not] at hpassed
          rcases hpassed with hmax | hrest
          · simp [Nat.pos_of_ne_zero hmax]
          · simp [hrest]
        rw [hsettle]
        constructor
        · nofun
        · rintro ⟨found, rfl | ⟨hpassed', -⟩, h⟩
          · rw [hparams] at h
            cases h
          · exact absurd hpassed' hpassed

/-- A phrase that the line begins with gives way to others: its action takes nothing, and yet something
follows. -/
def GivesWay (line : String) (entry : Phrase × Action η) : Prop :=
  ∀ rest, BeginsWith line entry.1 rest → entry.2.maxParams = 0 ∧ rest ≠ ""

theorem givesWay_iff {line : String} {entry : Phrase × Action η} (hne : entry.1 ≠ []) :
    GivesWay line entry ↔ phraseMatches entry.1 (matchWords (Text.trim line)) = true →
      PassedOver (Text.trim line) entry := by
  unfold GivesWay PassedOver
  constructor
  · intro h hmatches
    exact h _ ((beginsWith_iff hne).2 ⟨hmatches, rfl⟩)
  · rintro h rest hbegins
    obtain ⟨hmatches, rfl⟩ := (beginsWith_iff hne).1 hbegins
    exact h hmatches

/-- A search through the candidates comes to a phrase exactly when it matches and the matching phrases
before it are passed over: the earlier ones that are at least as long, and the later ones that are
longer. -/
theorem reached_candidates {r : Registry η} {words : List String} {G : Phrase × Action η → Prop}
    {entry : Phrase × Action η} :
    Reached G entry (candidates r words) ↔ phraseMatches entry.1 words = true ∧
      ∃ before after, r.phrases = before ++ entry :: after ∧
        (∀ other ∈ before, phraseMatches other.1 words = true →
          entry.1.length ≤ other.1.length → G other) ∧
        ∀ other ∈ after, phraseMatches other.1 words = true →
          entry.1.length < other.1.length → G other := by
  have htrans : ∀ a b c : Phrase × Action η, decide (b.1.length ≤ a.1.length) = true →
      decide (c.1.length ≤ b.1.length) = true → decide (c.1.length ≤ a.1.length) = true := by
    intro a b c hab hbc
    simp only [decide_eq_true_eq] at *
    omega
  have htotal : ∀ a b : Phrase × Action η,
      (decide (b.1.length ≤ a.1.length) || decide (a.1.length ≤ b.1.length)) = true := by
    intro a b
    simp only [Bool.or_eq_true, decide_eq_true_eq]
    omega
  unfold candidates
  rw [reached_mergeSort htrans htotal, exists_filter_split]
  simp only [decide_eq_true_eq, decide_eq_false_iff_not, Nat.not_le]

theorem mem_candidates {r : Registry η} {words : List String} {entry : Phrase × Action η} :
    entry ∈ candidates r words ↔ entry ∈ r.phrases ∧ phraseMatches entry.1 words = true := by
  rw [candidates, List.mem_mergeSort, List.mem_filter]

theorem parse_eq_ok_iff_settle {r : Registry η} {marker line : String} {request : Request}
    (hcounts : ignorable marker line = false) :
    parse r marker line = .ok request ↔
      settle (Text.trim line) none (candidates r (matchWords (Text.trim line))) = .ok request := by
  simp only [parse, hcounts, Bool.false_eq_true, if_false]
  split
  · rename_i hnone
    rw [hnone]
    exact ⟨nofun, nofun⟩
  · rfl

/-- What was understood comes from a phrase that matches: its action has this key, and takes these parameters
from the rest. -/
theorem exists_entry_of_parse {r : Registry η} {marker line : String} {request : Request}
    (hcounts : ignorable marker line = false) (h : parse r marker line = .ok request) :
    ∃ entry ∈ r.phrases, phraseMatches entry.1 (matchWords (Text.trim line)) = true ∧
      entry.2.key = request.key ∧
      Takes entry.2 (remainderAfter entry.1 (Text.trim line)) request.params := by
  rw [parse_eq_ok_iff_settle hcounts, settle_eq_ok_iff] at h
  obtain ⟨entry, hreached, hparams⟩ := h
  obtain ⟨hentry, hmatches⟩ := mem_candidates.1 hreached.mem
  exact ⟨entry, hentry, hmatches, parameters_eq_ok_iff.1 hparams⟩

/-- Where every phrase is registered once, a search through the candidates begins with the longest phrase at the
beginning of a line. -/
theorem reached_longest {r : Registry η} {line : String} {phrase : Phrase} {a : Action η}
    (hunique : (r.phrases.map Prod.fst).Nodup) (hentry : (phrase, a) ∈ r.phrases)
    (hmatches : phraseMatches phrase (matchWords (Text.trim line)) = true)
    (hlongest : ∀ other ∈ r.phrases, phraseMatches other.1 (matchWords (Text.trim line)) = true →
      other.1.length ≤ phrase.length) (G : Phrase × Action η → Prop) :
    Reached G (phrase, a) (candidates r (matchWords (Text.trim line))) := by
  obtain ⟨before, after, hsplit⟩ := List.append_of_mem hentry
  -- a phrase of the same length at the same place is the same phrase
  have hsame : ∀ other ∈ r.phrases, phraseMatches other.1 (matchWords (Text.trim line)) = true →
      phrase.length ≤ other.1.length → other.1 = phrase := by
    intro other hother hothermatches hlonger
    have hlength := Nat.le_antisymm (hlongest other hother hothermatches) hlonger
    rw [phraseMatches, List.isPrefixOf_iff_prefix] at hmatches hothermatches
    rw [List.prefix_iff_eq_take.1 hmatches, List.prefix_iff_eq_take.1 hothermatches, hlength]
  refine reached_candidates.2 ⟨hmatches, before, after, hsplit, ?_, ?_⟩
  · intro other hother hothermatches hlonger
    have hphrase := hsame other (hsplit ▸ List.mem_append_left _ hother) hothermatches hlonger
    rw [hsplit, List.map_append, List.map_cons, List.nodup_append] at hunique
    exact absurd hphrase
      (hunique.2.2 _ (List.mem_map_of_mem hother) _ List.mem_cons_self)
  · intro other hother hothermatches hlonger
    have hmem : other ∈ r.phrases :=
      hsplit ▸ List.mem_append_right _ (List.mem_cons_of_mem _ hother)
    exact absurd hlonger (Nat.not_lt.2 (hlongest other hmem hothermatches))

/-- Where every phrase is registered once, the longest phrase at the beginning of a line decides, as soon as
its action takes what follows. -/
theorem parse_of_longest {r : Registry η} {marker line rest : String} {phrase : Phrase} {a : Action η}
    {params : List String} (hunique : (r.phrases.map Prod.fst).Nodup) (hentry : (phrase, a) ∈ r.phrases)
    (hne : phrase ≠ []) (hcounts : ignorable marker line = false) (hbegins : BeginsWith line phrase rest)
    (hlongest : ∀ other ∈ r.phrases, phraseMatches other.1 (matchWords (Text.trim line)) = true →
      other.1.length ≤ phrase.length)
    (htakes : Takes a rest params) : parse r marker line = .ok ⟨a.key, params⟩ := by
  obtain ⟨hmatches, rfl⟩ := (beginsWith_iff hne).1 hbegins
  rw [parse_eq_ok_iff_settle hcounts, settle_eq_ok_iff]
  exact ⟨(phrase, a), reached_longest hunique hentry hmatches hlongest _,
    parameters_eq_ok_iff.2 ⟨rfl, htakes⟩⟩

/-- A line that is not ignorable asks for an action with some parameters exactly when it begins with one
of the phrases of this action, the action takes these parameters from the rest, and every phrase that
comes before gives way, being longer or equally long and registered earlier. -/
theorem parse_eq_ok_iff {r : Registry η} {marker line key : String} {params : List String}
    (hphrases : ∀ entry ∈ r.phrases, entry.1 ≠ []) (hcounts : ignorable marker line = false) :
    parse r marker line = .ok ⟨key, params⟩ ↔
      ∃ before phrase a after rest, r.phrases = before ++ (phrase, a) :: after ∧ a.key = key ∧
        BeginsWith line phrase rest ∧
        (∀ other ∈ before, phrase.length ≤ other.1.length → GivesWay line other) ∧
        (∀ other ∈ after, phrase.length < other.1.length → GivesWay line other) ∧
        (0 < a.maxParams ∨ rest = "") ∧ Takes a rest params := by
  rw [parse_eq_ok_iff_settle hcounts, settle_eq_ok_iff]
  constructor
  · rintro ⟨⟨phrase, a⟩, hreached, hparams⟩
    obtain ⟨hmatches, before, after, hsplit, hbefore, hafter⟩ := reached_candidates.1 hreached
    obtain ⟨hkey, htakes⟩ := parameters_eq_ok_iff.1 hparams
    rw [hsplit, List.forall_mem_append, List.forall_mem_cons] at hphrases
    obtain ⟨hbeforeNe, hne, hafterNe⟩ := hphrases
    refine ⟨before, phrase, a, after, _, hsplit, hkey, (beginsWith_iff hne).2 ⟨hmatches, rfl⟩,
      ?_, ?_, ?_, htakes⟩
    · exact fun other hother hlonger =>
        (givesWay_iff (hbeforeNe other hother)).2 (fun h => hbefore other hother h hlonger)
    · exact fun other hother hlonger =>
        (givesWay_iff (hafterNe other hother)).2 (fun h => hafter other hother h hlonger)
    · cases htakes with
      | nothing _ hrest => exact .inr hrest
      | list hsome => exact .inl hsome
  · rintro ⟨before, phrase, a, after, rest, hsplit, hkey, hbegins, hbefore, hafter, -, htakes⟩
    rw [hsplit, List.forall_mem_append, List.forall_mem_cons] at hphrases
    obtain ⟨hbeforeNe, hne, hafterNe⟩ := hphrases
    obtain ⟨hmatches, rfl⟩ := (beginsWith_iff hne).1 hbegins
    refine ⟨(phrase, a), reached_candidates.2 ⟨hmatches, before, after, hsplit, ?_, ?_⟩,
      parameters_eq_ok_iff.2 ⟨hkey, htakes⟩⟩
    · exact fun other hother h hlonger =>
        (givesWay_iff (hbeforeNe other hother)).1 (hbefore other hother hlonger) h
    · exact fun other hother h hlonger =>
        (givesWay_iff (hafterNe other hother)).1 (hafter other hother hlonger) h

/-- An action of which only the key, the phrase and the number of parameters matter. -/
def waiting (key : String) (phrase : Phrase) (count : Nat) (hne : phrase ≠ []) : Action Unit where
  key := key
  phrase := phrase
  handler := ()
  minParams := count
  maxParams := count
  usage := ""
  description := ""
  aliases := []
  opensNewPage := false
  phrase_ne_nil := hne
  min_le_max := Nat.le_refl _

/-- Actions whose phrases begin alike. -/
def waits : Registry Unit where
  actions := [
    waiting "wait" ["wait"] 1 nofun,
    waiting "waitForSelector" ["wait", "for"] 1 nofun,
    waiting "waitForNavigation" ["wait", "for", "navigation"] 0 nofun]
  frozen := true

theorem waits_phrases_ne_nil : ∀ entry ∈ waits.phrases, entry.1 ≠ [] := by
  simp [waits, waiting, Registry.phrases, Action.phrases]

/-- The longest phrase takes nothing and gives way, so the second longest takes the rest. -/
theorem parse_waits :
    (∀ entry ∈ waits.phrases, entry.1 ≠ []) ∧ ignorable "#" " Wait FOR navigation bar " = false ∧
      parse waits "#" " Wait FOR navigation bar " = .ok ⟨"waitForSelector", ["navigation bar"]⟩ := by
  have hcounts : ignorable "#" " Wait FOR navigation bar " = false := by decide +kernel
  have hbegins : BeginsWith " Wait FOR navigation bar " ["wait", "for"] "navigation bar" :=
    (beginsWith_iff (List.cons_ne_nil _ _)).2 ⟨by decide +kernel, by decide +kernel⟩
  refine ⟨waits_phrases_ne_nil, hcounts, (parse_eq_ok_iff waits_phrases_ne_nil hcounts).2
    ⟨[(["wait"], _)], ["wait", "for"], _, [(["wait", "for", "navigation"], _)], "navigation bar",
      rfl, rfl, hbegins, ?_, ?_, .inl (by decide), ?_⟩⟩
  · intro other hother hlonger
    rw [List.mem_singleton.1 hother] at hlonger
    exact absurd hlonger (by decide)
  · intro other hother _
    rw [List.mem_singleton.1 hother]
    exact (givesWay_iff (List.cons_ne_nil _ _)).2 (fun _ => ⟨rfl, by decide +kernel⟩)
  · exact .list (by decide) (by decide +kernel) (by decide +kernel)

end BrowserScript.Instruction
