/-
BrowserScript.Proofs.Instruction.QuotedParameters — parameters between double quotes are read back.

A writer puts a parameter between double quotes and a backslash before every double quote in it; nothing else is
changed, and a backslash stays one backslash. Two readers have to agree about such a text. The one that looks for
commas goes by the backslashes: a quote closes unless an odd number of them stands right before it. The one
that removes the quotes looks at the one character before each quote.

`EvenRuns` is what makes them agree: where a quote follows or the text ends, an even number of backslashes
comes before. The backslash that the writer adds then makes the number odd, and the closing quote has an even
number before it.

* `uncut_escapeQuotes`: no comma of a written text cuts, and its last quote closes. By induction on the text;
  the invariant is that the character at hand is escaped exactly when the number of backslashes before it is
  odd, counted in the text before it was written.
* `unquoteChars_quotedChars`: removing the quotes gives the text back.
* `Spelled`: a phrase that can be told from what follows when it is written word by word. No word of it begins
  with a quote, so no phrase goes on into a quoted parameter.

Main statement: `parse_quotedLine`. A line made of a phrase of a built-in action and quoted parameters asks for
this action with these parameters.
-/
import BrowserScript.Proofs.Instruction.JoinedPieces
import BrowserScript.Proofs.Instruction.LongestPhrase
import BrowserScript.Proofs.Text.Escaping
import BrowserScript.Vocabulary.BuiltIn

namespace BrowserScript.Instruction

/-! ## §1 Written parameters -/

/-- Every double quote with a backslash before it. -/
def escapeQuotes (cs : List Char) : List Char := Text.replaceChar '"' ['\\', '"'] cs

/-- A text between double quotes. -/
def quotedChars (cs : List Char) : List Char := '"' :: (escapeQuotes cs ++ ['"'])

/-- A parameter between double quotes. -/
def quotedParameter (s : String) : String := String.ofList (quotedChars s.toList)

/-- A line that asks for an action: a phrase, and the parameters between double quotes. -/
def quotedLine (phrase : Phrase) (params : List String) : String :=
  Text.joined " " phrase ++ " " ++ Text.joined ", " (params.map quotedParameter)

/-- The number of backslashes at the end of a text. -/
def backslashes (cs : List Char) : Nat := (cs.reverse.takeWhile (· == '\\')).length

/-- Every run of backslashes right before a double quote or at the end of a text has even length. -/
def EvenRuns (cs : List Char) : Prop :=
  ∀ before after, before ++ after = cs → after = [] ∨ after.head? = some '"' → backslashes before % 2 = 0

theorem evenRuns_iff {cs : List Char} :
    EvenRuns cs ↔ ∀ n < cs.length + 1, cs.drop n = [] ∨ (cs.drop n).head? = some '"' →
      backslashes (cs.take n) % 2 = 0 := by
  constructor
  · exact fun h n _ hends => h _ _ (List.take_append_drop n cs) hends
  · rintro h before after rfl hends
    have hrun := h before.length (by rw [List.length_append]; omega)
    rw [List.drop_left, List.take_left] at hrun
    exact hrun hends

instance (cs : List Char) : Decidable (EvenRuns cs) := decidable_of_iff _ evenRuns_iff.symm

theorem escapeQuotes_cons_quote (cs : List Char) :
    escapeQuotes ('"' :: cs) = '\\' :: '"' :: escapeQuotes cs := rfl

theorem escapeQuotes_cons {c : Char} (hc : c ≠ '"') (cs : List Char) :
    escapeQuotes (c :: cs) = c :: escapeQuotes cs := escapeMarks_cons hc cs

theorem toList_quotedParameter (s : String) : (quotedParameter s).toList = quotedChars s.toList :=
  String.toList_ofList

/-! ## §2 Commas between the quotes -/

theorem backslashes_concat (cs : List Char) (c : Char) :
    backslashes (cs ++ [c]) = if c = '\\' then backslashes cs + 1 else 0 := by
  unfold backslashes
  rw [List.reverse_concat, List.takeWhile_cons]
  split <;> simp_all

/-- The place between double quotes after a text. -/
def between (before : List Char) : QuoteState := ⟨some '"', backslashes before % 2 == 1⟩

theorem separates_between (before : List Char) : (between before).separates = false := rfl

/-- A character other than a double quote keeps the reader between the quotes. -/
theorem next_between {c : Char} (hc : c ≠ '"') (before : List Char) :
    (between before).next c = between (before ++ [c]) := by
  rw [between, between, backslashes_concat]
  rcases Nat.mod_two_eq_zero_or_one (backslashes before) with heven | hodd
  · by_cases hback : c = '\\'
    · have hnext : (backslashes before + 1) % 2 = 1 := by omega
      simp [QuoteState.next, heven, hnext, hback]
    · simp [QuoteState.next, heven, hback, hc]
  · by_cases hback : c = '\\'
    · have hnext : (backslashes before + 1) % 2 = 0 := by omega
      simp [QuoteState.next, hodd, hnext, hback]
    · simp [QuoteState.next, hodd, hback]

/-- From the place after `before`, the rest of a written text leads past its closing quote. -/
theorem uncut_escapeQuotes {before cs : List Char} (h : EvenRuns (before ++ cs)) :
    Uncut (between before) (escapeQuotes cs ++ ['"']) .start := by
  induction cs generalizing before with
  | nil =>
    have heven : backslashes before % 2 = 0 := h before [] rfl (.inl rfl)
    have hclose : (between before).next '"' = .start := by
      simp [between, QuoteState.next, QuoteState.start, heven]
    exact .cons (fun _ => separates_between before) (hclose ▸ .nil _)
  | cons c cs ih =>
    have hrest : EvenRuns ((before ++ [c]) ++ cs) := by rwa [List.append_assoc]
    by_cases hc : c = '"'
    · subst hc
      have heven : backslashes before % 2 = 0 := h before ('"' :: cs) rfl (.inr rfl)
      -- the added backslash takes the meaning of the quote away
      have hquote : ((between before).next '\\').next '"' = between (before ++ ['"']) := by
        simp [between, QuoteState.next, heven, backslashes_concat]
      rw [escapeQuotes_cons_quote]
      exact .cons (fun _ => separates_between before) (.cons nofun (hquote ▸ ih hrest))
    · rw [escapeQuotes_cons hc]
      exact .cons (fun _ => separates_between before) (next_between hc before ▸ ih hrest)

theorem uncut_quotedChars {cs : List Char} (h : EvenRuns cs) : Uncut .start (quotedChars cs) .start := by
  have hopened : Uncut (between []) (escapeQuotes cs ++ ['"']) .start := uncut_escapeQuotes h
  exact .cons nofun hopened

/-! ## §3 Removing the quotes -/

theorem unquoteChars_quotedChars (cs : List Char) : unquoteChars (quotedChars cs) = cs := by
  have hbare : hasBare '"' false (escapeQuotes cs) = false := hasBare_escapeMarks (by decide) false cs
  have hread : unescape '"' (escapeQuotes cs) = cs := unescape_escapeMarks (by decide) cs
  simp [unquoteChars, quotedChars, isQuote, hbare, hread]

/-- A quoted parameter can be read back. -/
theorem writes_quotedParameter {s : String} (h : EvenRuns s.toList) : Writes (quotedParameter s) s where
  uncut := by
    rw [toList_quotedParameter]
    exact uncut_quotedChars h
  first := by
    intro c hc
    rw [toList_quotedParameter] at hc
    cases hc
    decide
  last := by
    intro c hc
    rw [toList_quotedParameter, quotedChars, ← List.cons_append, List.getLast?_concat] at hc
    cases hc
    decide
  unquotes := by
    rw [unquote, toList_quotedParameter, unquoteChars_quotedChars, String.ofList_toList]

/-! ## §4 The words of a line -/

/-- A phrase that can be read back when it is written with blanks between its words, none of which begins with a
quote, and that does not look like a comment. -/
structure Spelled (phrase : Phrase) : Prop where
  ne_nil : phrase ≠ []
  words : loweredWords (Text.joined " " phrase).toList = phrase
  unquoted : ∀ word ∈ phrase, word.toList.head? ≠ some '"'
  first : (Text.joined " " phrase).toList.head?.any (fun c => !Text.isBlank c && c != '#') = true

/-- A line that asks for something: a phrase, and a text after it. -/
def lineOf (phrase : Phrase) (text : String) : String := Text.joined " " phrase ++ " " ++ text

section LineOf

variable {phrase : Phrase} {text : String}

theorem toList_lineOf (phrase : Phrase) (text : String) :
    (lineOf phrase text).toList = (Text.joined " " phrase).toList ++ ' ' :: text.toList := by
  rw [lineOf, String.toList_append, String.toList_append, List.append_assoc]
  rfl

/-- The line begins with the phrase, and the text follows. -/
theorem beginsWith_lineOf (hphrase : Spelled phrase) (htrim : Text.trim text = text) :
    BeginsWith (lineOf phrase text) phrase text := by
  have hrest : Text.trimChars (' ' :: text.toList) = text.toList := by
    rw [Text.trimChars_cons_of_blank (by decide), ← Text.toList_trim, htrim]
  have hbreaks : Text.Breaks (' ' :: text.toList) := by
    intro c hc
    cases hc
    decide
  have hcut := BeginsWith.cut (toList_lineOf phrase text) hbreaks
  rwa [hphrase.words, hrest, String.ofList_toList] at hcut

/-- The line begins and ends with characters that are not blank. -/
theorem trim_lineOf (hphrase : Spelled phrase) (htrim : Text.trim text = text) (hne : text ≠ "") :
    Text.trim (lineOf phrase text) = lineOf phrase text := by
  have hfirst := hphrase.first
  have hlast := Text.getLast?_trimChars text.toList
  rw [← Text.toList_trim, htrim] at hlast
  rw [← String.toList_inj, Text.toList_trim, toList_lineOf]
  refine Text.trimChars_around ?_ (by simpa using hne) ?_ hlast [' ']
  · intro hnone
    rw [hnone] at hfirst
    cases hfirst
  · intro c hc
    rw [hc] at hfirst
    simp only [Option.any_some, Bool.and_eq_true, Bool.not_eq_true'] at hfirst
    exact hfirst.1

/-- The line is no comment. -/
theorem ignorable_lineOf (hphrase : Spelled phrase) (htrim : Text.trim text = text) (hne : text ≠ "") :
    ignorable "#" (lineOf phrase text) = false := by
  have hfirst := hphrase.first
  rcases hchars : (Text.joined " " phrase).toList with _ | ⟨c, rest⟩
  · rw [hchars] at hfirst
    cases hfirst
  simp only [hchars, List.head?_cons, Option.any_some, Bool.and_eq_true, Bool.not_eq_true',
    bne_iff_ne] at hfirst
  have hline : (lineOf phrase text).toList = c :: (rest ++ ' ' :: text.toList) := by
    rw [toList_lineOf, hchars]
    rfl
  have hsome : lineOf phrase text ≠ "" := by
    intro hempty
    rw [hempty] at hline
    cases hline
  have hmarker : Text.startsWith (lineOf phrase text) "#" = false := by
    have hhash : ('#' == c) = false := by simpa using hfirst.2.symm
    have hchar : "#".toList = ['#'] := rfl
    rw [Text.startsWith, hline, hchar, List.isPrefixOf, hhash, Bool.false_and]
  simp [ignorable, trim_lineOf hphrase htrim hne, hsome, hmarker]

end LineOf

theorem head?_lower_quote (cs : List Char) :
    (Text.lower (String.ofList ('"' :: cs))).toList.head? = some '"' := by
  rw [Text.lower, String.toList_ofList, String.toList_ofList]
  rfl

/-- The first of the words after a phrase begins with a quote when the text does. -/
theorem loweredWords_quote (cs : List Char) :
    ∃ word others, loweredWords (' ' :: '"' :: cs) = word :: others ∧ word.toList.head? = some '"' := by
  have hquote : Text.isBlank '"' = false := by decide
  obtain ⟨word, others, hwords⟩ := Text.exists_words_cons hquote cs
  refine ⟨_, others.map (fun w => Text.lower (String.ofList w)), ?_, head?_lower_quote word⟩
  rw [loweredWords, Text.words_cons_of_blank (by decide), hwords, List.map_cons]

/-- A phrase whose words do not begin with a quote ends before the first word that does. -/
theorem length_le_of_isPrefix {phrase other : Phrase} {word : String} {others : List String}
    (hword : word.toList.head? = some '"') (hother : ∀ w ∈ other, w.toList.head? ≠ some '"')
    (h : other <+: phrase ++ word :: others) : other.length ≤ phrase.length := by
  by_contra hlonger
  rw [Nat.not_le] at hlonger
  have hat : other[phrase.length] = word := by
    rw [h.getElem hlonger, List.getElem_append_right (Nat.le_refl _)]
    simp
  exact hother _ (List.getElem_mem hlonger) (hat ▸ hword)

/-- Quoted parameters begin and end with a quote. -/
theorem exists_joined_quoted {params : List String} (hne : params ≠ []) :
    ∃ inner, (Text.joined ", " (params.map quotedParameter)).toList = '"' :: (inner ++ ['"']) := by
  induction params with
  | nil => exact absurd rfl hne
  | cons p params ih =>
    rw [List.map_cons, toList_joined, toList_quotedParameter]
    cases params with
    | nil => exact ⟨_, by rw [List.map_nil, List.flatMap_nil, List.append_nil]; rfl⟩
    | cons q params =>
      obtain ⟨inner, hinner⟩ := ih nofun
      rw [List.map_cons, toList_joined] at hinner
      refine ⟨escapeQuotes p.toList ++ ['"', ',', ' ', '"'] ++ inner, ?_⟩
      rw [List.map_cons, List.flatMap_cons, List.append_assoc, hinner]
      simp [quotedChars]

section Line

variable {phrase : Phrase} {params : List String}

/-- Quoted parameters have no blanks around them. -/
theorem trim_joined_quoted (hne : params ≠ []) :
    Text.trim (Text.joined ", " (params.map quotedParameter))
      = Text.joined ", " (params.map quotedParameter) := by
  obtain ⟨inner, hinner⟩ := exists_joined_quoted hne
  rw [← String.toList_inj, Text.toList_trim, hinner]
  exact Text.trimChars_between (by decide) (by decide) inner

/-- The line begins with the phrase, and the written parameters follow. -/
theorem beginsWith_quotedLine (hphrase : Spelled phrase) (hne : params ≠ []) :
    BeginsWith (quotedLine phrase params) phrase (Text.joined ", " (params.map quotedParameter)) :=
  beginsWith_lineOf hphrase (trim_joined_quoted hne)

/-- No longer phrase begins the line. -/
theorem length_le_of_matches {other : Phrase} (hphrase : Spelled phrase) (hne : params ≠ [])
    (hother : ∀ word ∈ other, word.toList.head? ≠ some '"')
    (hmatches : phraseMatches other (matchWords (Text.trim (quotedLine phrase params))) = true) :
    other.length ≤ phrase.length := by
  obtain ⟨inner, hinner⟩ := exists_joined_quoted hne
  obtain ⟨word, others, hwords, hword⟩ := loweredWords_quote (inner ++ ['"'])
  have hline : matchWords (Text.trim (quotedLine phrase params)) = phrase ++ word :: others := by
    have hbreaks : Text.Breaks (' ' :: '"' :: (inner ++ ['"'])) := by
      intro c hc
      cases hc
      decide
    rw [matchWords_trim, quotedLine, ← lineOf, toList_lineOf, hinner, loweredWords,
      Text.words_append _ hbreaks, List.map_append]
    exact congrArg₂ (· ++ ·) hphrase.words hwords
  rw [phraseMatches, hline, List.isPrefixOf_iff_prefix] at hmatches
  exact length_le_of_isPrefix hword hother hmatches

/-- The line is no comment. -/
theorem ignorable_quotedLine (hphrase : Spelled phrase) (hne : params ≠ []) :
    ignorable "#" (quotedLine phrase params) = false := by
  obtain ⟨inner, hinner⟩ := exists_joined_quoted hne
  refine ignorable_lineOf hphrase (trim_joined_quoted hne) ?_
  intro hempty
  rw [hempty] at hinner
  cases hinner

end Line

/-! ## §5 The built-in actions -/

open Vocabulary

theorem spelled_frozenVocabulary : ∀ entry ∈ frozenVocabulary.phrases, Spelled entry.1 := by
  have hall : frozenVocabulary.phrases.all (fun entry =>
      entry.1 != [] && loweredWords (Text.joined " " entry.1).toList == entry.1 &&
        entry.1.all (fun word => word.toList.head? != some '"') &&
        (Text.joined " " entry.1).toList.head?.any (fun c => !Text.isBlank c && c != '#')) = true := by
    decide +kernel
  intro entry hentry
  have h := List.all_eq_true.1 hall entry hentry
  simp only [Bool.and_eq_true, bne_iff_ne, beq_iff_eq, List.all_eq_true] at h
  exact ⟨h.1.1.1, h.1.1.2, h.1.2, by simpa using h.2⟩

theorem nodup_frozenVocabulary : (frozenVocabulary.phrases.map Prod.fst).Nodup := by decide +kernel

theorem minParams_pos {a : Action Handler} (ha : a ∈ frozenVocabulary.actions) (htwo : 2 ≤ a.maxParams) :
    0 < a.minParams := by
  have hall : frozenVocabulary.actions.all (fun b => b.maxParams < 2 || 0 < b.minParams) = true := by
    decide +kernel
  have h := List.all_eq_true.1 hall a ha
  simp only [Bool.or_eq_true, decide_eq_true_eq] at h
  omega

/-- A line made of a phrase of a built-in action of several parameters, a blank, and as many parameters as the
action takes, each between double quotes and none empty, asks for this action with these parameters, as long as
every run of backslashes before a double quote or at the end of a parameter has even length. It is no comment
under the usual marker, and read in the same way under any other marker that it does not begin with. -/
theorem parse_quotedLine {a : Action Handler} {phrase : Phrase} {params : List String}
    (ha : a ∈ frozenVocabulary.actions) (htwo : 2 ≤ a.maxParams) (hphrase : phrase ∈ a.phrases)
    (hmin : a.minParams ≤ params.length) (hmax : params.length ≤ a.maxParams)
    (hparams : ∀ p ∈ params, p ≠ "" ∧ EvenRuns p.toList) :
    parse frozenVocabulary "#" (quotedLine phrase params) = .ok ⟨a.key, params⟩ ∧
      ∀ marker, ignorable marker (quotedLine phrase params) = false →
        parse frozenVocabulary marker (quotedLine phrase params) = .ok ⟨a.key, params⟩ := by
  have hentry : (phrase, a) ∈ frozenVocabulary.phrases :=
    List.mem_flatMap.2 ⟨a, ha, List.mem_map_of_mem hphrase⟩
  have hspelled : Spelled phrase := spelled_frozenVocabulary _ hentry
  have hne : params ≠ [] := by
    rintro rfl
    exact absurd (Nat.lt_of_lt_of_le (minParams_pos ha htwo) hmin) (Nat.lt_irrefl 0)
  have hlist : parameterList a.maxParams (Text.joined ", " (params.map quotedParameter)) = params :=
    parameterList_joined (fun p hp => writes_quotedParameter (hparams p hp).2)
      (fun p hp => (hparams p hp).1) htwo hmax
  have htakes : Takes a (Text.joined ", " (params.map quotedParameter)) params := by
    have h : Takes a (Text.joined ", " (params.map quotedParameter)) _ :=
      .list (by omega) (by rw [hlist]; exact hmin)
        (by rw [hlist]; exact fun p hp => (hparams p (List.mem_of_mem_take hp)).1)
    rwa [hlist] at h
  have hparse : ∀ marker, ignorable marker (quotedLine phrase params) = false →
      parse frozenVocabulary marker (quotedLine phrase params) = .ok ⟨a.key, params⟩ := by
    intro marker hcounts
    refine parse_of_longest nodup_frozenVocabulary hentry hspelled.ne_nil hcounts
      (beginsWith_quotedLine hspelled hne) ?_ htakes
    intro other hother hmatches
    exact length_le_of_matches hspelled hne (spelled_frozenVocabulary other hother).unquoted hmatches
  exact ⟨hparse "#" (ignorable_quotedLine hspelled hne), hparse⟩

/-- Parameters with commas, blanks, quotes of both kinds and backslashes in them. -/
def awkward : List String := [" it's, you", "say \"yes\", then \\\\", "Jo O'Neil "]

/-- They are read back from a line of another phrase of an action. -/
theorem parse_quotedLine_awkward :
    ∃ a ∈ frozenVocabulary.actions, a.key = "signup" ∧ 2 ≤ a.maxParams ∧ ["sign", "up"] ∈ a.phrases ∧
      a.minParams ≤ awkward.length ∧ awkward.length ≤ a.maxParams ∧
      (∀ p ∈ awkward, p ≠ "" ∧ EvenRuns p.toList) ∧
      quotedLine ["sign", "up"] awkward
        = "sign up \" it's, you\", \"say \\\"yes\\\", then \\\\\", \"Jo O'Neil \"" ∧
      parse frozenVocabulary "#" (quotedLine ["sign", "up"] awkward) = .ok ⟨a.key, awkward⟩ := by
  have hany : frozenVocabulary.actions.any (fun a => a.key == "signup" && 2 ≤ a.maxParams &&
      a.phrases.contains ["sign", "up"] && a.minParams ≤ awkward.length &&
      awkward.length ≤ a.maxParams) = true := by
    decide +kernel
  obtain ⟨a, ha, hfacts⟩ := List.any_eq_true.1 hany
  simp only [Bool.and_eq_true, beq_iff_eq, decide_eq_true_eq, List.contains_iff_mem] at hfacts
  obtain ⟨⟨⟨⟨hkey, htwo⟩, hphrase⟩, hmin⟩, hmax⟩ := hfacts
  have hparams : ∀ p ∈ awkward, p ≠ "" ∧ EvenRuns p.toList := by decide +kernel
  exact ⟨a, ha, hkey, htwo, hphrase, hmin, hmax, hparams, by decide +kernel,
    (parse_quotedLine ha htwo hphrase hmin hmax hparams).1⟩

end BrowserScript.Instruction
