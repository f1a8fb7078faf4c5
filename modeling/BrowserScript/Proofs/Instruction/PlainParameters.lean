/-
BrowserScript.Proofs.Instruction.PlainParameters — parameters that are written as they are.

Most parameters are written without quotes around them: `login ann, secret`. Such a line is cut at the commas
between the parameters, as long as the reader is outside of quotes there. An apostrophe is a quote to the
reader, so one in the middle of a word, as in `O'Brien`, opens quoted text that hides the commas after it.

* `Plain`: a parameter without commas and backslashes, that has no blanks around it and does not begin with a
  quote. Nothing is removed from such a parameter (`Plain.read_chars`).
* `pieces_intercalate`, `separates_of_length_pieces`: texts without commas, joined by commas, are cut into
  themselves when the reader separates after each but the last of them, and into fewer pieces otherwise. Both are
  by induction on the texts; each text is read from the beginning as soon as the comma before it has cut.
* `parameterList_plain_iff`: so plain parameters are read back exactly when all but the last close the quotes
  that they open.

Main statement: `parse_plainLine_iff`, the same of a line that asks for a built-in action.
-/
import BrowserScript.Proofs.Instruction.CutPoints
import BrowserScript.Proofs.Instruction.ReportedFailure

namespace BrowserScript.Instruction

open QuoteState

/-! ## §1 Texts without commas -/

theorem length_consPiece {c : Char} {ps : List (List Char)} (hps : ps ≠ []) :
    (consPiece c ps).length = ps.length := by
  cases ps with
  | nil => contradiction
  | cons p ps => rfl

/-- Every piece but the first comes after a comma. -/
theorem length_pieces_le (s : QuoteState) (cuts : Option Nat) (cs : List Char) :
    (pieces s cuts cs).length ≤ cs.count ',' + 1 := by
  induction cs generalizing s cuts with
  | nil => simp [pieces]
  | cons c cs ih =>
    by_cases hcut : c = ',' ∧ s.separates = true ∧ cuts ≠ some 0
    · obtain ⟨rfl, hs, hcuts⟩ := hcut
      have hrest := ih (s.next ',') (cuts.map (· - 1))
      rw [pieces_cut hs hcuts, List.length_cons, List.count_cons_self]
      omega
    · have hrest := ih (s.next c) cuts
      have hcount := List.count_le_count_cons (a := ',') (b := c) (l := cs)
      rw [pieces_keep hcut, length_consPiece (pieces_ne_nil _ _ _)]
      omega

/-- A text without commas is not cut. -/
theorem Uncut.of_no_comma {cs : List Char} (h : ',' ∉ cs) (s : QuoteState) : Uncut s cs (s.after cs) := by
  induction cs generalizing s with
  | nil => exact .nil s
  | cons c cs ih =>
    refine .cons ?_ (ih (fun hmem => h (List.mem_cons_of_mem c hmem)) _)
    rintro rfl
    exact absurd List.mem_cons_self h

theorem next_comma {s : QuoteState} (hs : s.separates = true) : s.next ',' = .start := by
  obtain ⟨mark, escaped⟩ := s
  simp only [separates, Bool.and_eq_true, Option.isNone_iff_eq_none, Bool.not_eq_true'] at hs
  obtain ⟨rfl, rfl⟩ := hs
  rfl

section Comma

variable {t : List Char}

/-- A comma at which the reader separates ends a text without commas, and what follows is read from the
beginning. -/
theorem pieces_separated (ht : ',' ∉ t) (hsep : (QuoteState.start.after t).separates = true) (n : Nat)
    (rest : List Char) :
    pieces .start (some (n + 1)) (t ++ ',' :: rest) = t :: pieces .start (some n) rest := by
  rw [(Uncut.of_no_comma ht _).pieces, pieces_cut hsep (by simp), next_comma hsep, foldr_consPiece,
    List.append_nil]
  rfl

/-- Any other comma after a text without commas makes no piece. -/
theorem length_pieces_kept (ht : ',' ∉ t) (hsep : (QuoteState.start.after t).separates = false)
    (cuts : Option Nat) (rest : List Char) :
    (pieces .start cuts (t ++ ',' :: rest)).length ≤ rest.count ',' + 1 := by
  have hkeep : ¬ (',' = ',' ∧ (QuoteState.start.after t).separates = true ∧ cuts ≠ some 0) := by
    simp [hsep]
  have hrest := length_pieces_le ((QuoteState.start.after t).next ',') cuts rest
  obtain ⟨p, ps, hps⟩ := List.exists_cons_of_ne_nil (pieces_ne_nil ((QuoteState.start.after t).next ',')
    cuts rest)
  rw [(Uncut.of_no_comma ht _).pieces, pieces_keep hkeep, hps, consPiece, foldr_consPiece]
  simpa [hps] using hrest

end Comma

/-! ## §2 Joined texts -/

section Texts

variable {texts : List (List Char)} {n : Nat}

theorem intercalate_comma (t u : List Char) (texts : List (List Char)) :
    [','].intercalate (t :: u :: texts) = t ++ ',' :: [','].intercalate (u :: texts) := by
  rw [List.intercalate_cons_cons, List.append_assoc, List.singleton_append]

theorem count_intercalate (hne : texts ≠ []) (hfree : ∀ t ∈ texts, ',' ∉ t) :
    ([','].intercalate texts).count ',' + 1 = texts.length := by
  induction texts with
  | nil => contradiction
  | cons t texts ih =>
    obtain ⟨ht, hothers⟩ := List.forall_mem_cons.1 hfree
    cases texts with
    | nil => simp [List.count_eq_zero.2 ht]
    | cons u texts =>
      have hrest := ih (by simp) hothers
      rw [intercalate_comma, List.count_append, List.count_cons_self, List.count_eq_zero.2 ht]
      simp only [List.length_cons] at hrest ⊢
      omega

/-- Texts without commas, after each of which but the last the reader separates, are cut out of their join. -/
theorem pieces_intercalate (hne : texts ≠ []) (hfree : ∀ t ∈ texts, ',' ∉ t) (hn : texts.length ≤ n + 1)
    (hsep : ∀ t ∈ texts.dropLast, (QuoteState.start.after t).separates = true) :
    pieces .start (some n) ([','].intercalate texts) = texts := by
  induction texts generalizing n with
  | nil => contradiction
  | cons t texts ih =>
    obtain ⟨ht, hothers⟩ := List.forall_mem_cons.1 hfree
    cases texts with
    | nil =>
      have hwhole := (Uncut.of_no_comma ht .start).pieces (some n) []
      rw [List.append_nil, pieces, foldr_consPiece, List.append_nil] at hwhole
      simpa using hwhole
    | cons u texts =>
      rw [List.dropLast_cons_cons, List.forall_mem_cons] at hsep
      obtain ⟨n, rfl⟩ := Nat.exists_eq_add_one.2 (show 0 < n by simp at hn; omega)
      rw [intercalate_comma, pieces_separated ht hsep.1,
        ih (by simp) hothers (by simp at hn ⊢; omega) hsep.2]

/-- When there are as many pieces as texts, the reader separates after each of the texts but the last. -/
theorem separates_of_length_pieces (hfree : ∀ t ∈ texts, ',' ∉ t) (hn : texts.length ≤ n + 1)
    (hlength : texts.length ≤ (pieces .start (some n) ([','].intercalate texts)).length) :
    ∀ t ∈ texts.dropLast, (QuoteState.start.after t).separates = true := by
  induction texts generalizing n with
  | nil => simp
  | cons t texts ih =>
    obtain ⟨ht, hothers⟩ := List.forall_mem_cons.1 hfree
    cases texts with
    | nil => simp
    | cons u texts =>
      rw [intercalate_comma] at hlength
      cases hsep : (QuoteState.start.after t).separates with
      | true =>
        obtain ⟨n, rfl⟩ := Nat.exists_eq_add_one.2 (show 0 < n by simp at hn; omega)
        rw [pieces_separated ht hsep] at hlength
        rw [List.dropLast_cons_cons, List.forall_mem_cons]
        exact ⟨hsep, ih hothers (by simp at hn ⊢; omega) (by simpa using hlength)⟩
      | false =>
        have hfewer := length_pieces_kept ht hsep (some n) ([','].intercalate (u :: texts))
        have hcount := count_intercalate (List.cons_ne_nil u texts) hothers
        simp only [List.length_cons] at hlength hcount
        omega

end Texts

/-! ## §3 Plain parameters -/

/-- A parameter that is written as it is: not empty, without blanks around it, without commas and backslashes, and
not beginning with a quote. Quotes inside are allowed. -/
structure Plain (p : String) : Prop where
  full : p ≠ ""
  trimmed : Text.trim p = p
  no_comma : ',' ∉ p.toList
  no_backslash : '\\' ∉ p.toList
  unquoted : ∀ c ∈ p.toList.head?, isQuote c = false

theorem plain_iff {p : String} :
    Plain p ↔ p ≠ "" ∧ Text.trim p = p ∧ ',' ∉ p.toList ∧ '\\' ∉ p.toList ∧
      p.toList.head?.any isQuote = false := by
  rw [Option.any_eq_false]
  constructor
  · intro h
    exact ⟨h.full, h.trimmed, h.no_comma, h.no_backslash, fun c hc => by simpa using h.unquoted c hc⟩
  · rintro ⟨hfull, htrimmed, hcomma, hbackslash, hquote⟩
    exact ⟨hfull, htrimmed, hcomma, hbackslash, fun c hc => by simpa using hquote c hc⟩

instance (p : String) : Decidable (Plain p) := decidable_of_iff _ plain_iff.symm

/-- The parameter that a piece of a text stands for. -/
def readPiece (piece : List Char) : String := unquote (Text.trim (String.ofList piece))

/-- A blank before a piece does not count. -/
theorem readPiece_blank_cons (piece : List Char) : readPiece (' ' :: piece) = readPiece piece := by
  rw [readPiece, readPiece, Text.trim, Text.trim, String.toList_ofList, String.toList_ofList,
    Text.trimChars_cons_of_blank (by decide)]

theorem unquote_eq_self {p : String} (h : ∀ c ∈ p.toList.head?, isQuote c = false) : unquote p = p := by
  have hchars : unquoteChars p.toList = p.toList := by
    cases hp : p.toList with
    | nil => rfl
    | cons c rest =>
      have hc : isQuote c = false := h c (by simp [hp])
      simp [unquoteChars, hc]
  rw [unquote, hchars, String.ofList_toList]

theorem Plain.read_chars {p : String} (h : Plain p) : readPiece p.toList = p := by
  rw [readPiece, String.ofList_toList, h.trimmed, unquote_eq_self h.unquoted]

/-- After a plain parameter the reader separates unless a quote that was opened in it is still open. -/
theorem Plain.separates_iff {p : String} (h : Plain p) :
    (QuoteState.start.after (' ' :: p.toList)).separates = true ↔ Outside p.toList := by
  have hblank : QuoteState.start.next ' ' = .start := rfl
  have hplain : ¬ EscapesNext p.toList := by
    intro hescapes
    exact h.no_backslash (List.mem_of_getLast? hescapes.getLast?)
  rw [after_cons, hblank, outside_iff]
  simp [separates, escaped_after_eq_false.2 hplain]

/-- The parameters of an action that takes several are the pieces of the text, read one by one. A blank before the
text makes its pieces alike. -/
theorem parameterList_eq {text : String} {maxParams : Nat} (hsome : text ≠ "") (htwo : 2 ≤ maxParams) :
    parameterList maxParams text
      = dropEmptyEnd ((pieces .start (some (maxParams - 1)) (' ' :: text.toList)).map readPiece) := by
  have hcuts : cutsFor (some (maxParams : Int)) = some (maxParams - 1) := by
    simp only [cutsFor, Option.map_some, Option.some.injEq]
    omega
  have hblank : pieces .start (some (maxParams - 1)) (' ' :: text.toList)
      = consPiece ' ' (pieces .start (some (maxParams - 1)) text.toList) := rfl
  have hread : (split text (some (maxParams : Int))).map (fun piece => unquote (Text.trim piece))
      = (pieces .start (some (maxParams - 1)) (' ' :: text.toList)).map readPiece := by
    obtain ⟨p, ps, hps⟩ := List.exists_cons_of_ne_nil
      (pieces_ne_nil .start (some (maxParams - 1)) text.toList)
    rw [split, hcuts, hblank, hps, consPiece, List.map_cons (f := readPiece), readPiece_blank_cons,
      List.map_map]
    rfl
  rw [parameterList, if_neg (by simpa using hsome), if_neg (by simp; omega), hread]

/-- Parameters joined by a comma and a blank, with a blank before the first. -/
theorem blank_cons_joined {params : List String} (hne : params ≠ []) :
    ' ' :: (Text.joined ", " params).toList = [','].intercalate (params.map (' ' :: ·.toList)) := by
  induction params with
  | nil => contradiction
  | cons p params ih =>
    cases params with
    | nil => simp [Text.joined]
    | cons q params =>
      have hrest := ih (by simp)
      rw [List.map_cons] at hrest
      rw [List.map_cons, List.map_cons, intercalate_comma, ← hrest, Text.joined]
      · simp
      · simp

theorem trim_joined_plain {params : List String} (hne : params ≠ []) (hplain : ∀ p ∈ params, Plain p) :
    Text.joined ", " params ≠ "" ∧ Text.trim (Text.joined ", " params) = Text.joined ", " params := by
  induction params with
  | nil => contradiction
  | cons p params ih =>
    obtain ⟨hp, hothers⟩ := List.forall_mem_cons.1 hplain
    cases params with
    | nil => exact ⟨hp.full, hp.trimmed⟩
    | cons q params =>
      obtain ⟨hsome, htrim⟩ := ih (by simp) hothers
      have hfirst := Text.head?_trimChars p.toList
      have hlast := Text.getLast?_trimChars (Text.joined ", " (q :: params)).toList
      rw [← Text.toList_trim, hp.trimmed] at hfirst
      rw [← Text.toList_trim, htrim] at hlast
      have hjoined : (Text.joined ", " (p :: q :: params)).toList
          = p.toList ++ ([',', ' '] ++ (Text.joined ", " (q :: params)).toList) := by
        rw [Text.joined]
        · simp
        · simp
      refine ⟨fun hempty => ?_, ?_⟩
      · simp [hempty] at hjoined
      · rw [← String.toList_inj, Text.toList_trim, hjoined]
        exact Text.trimChars_around (by simpa using hp.full) (by simpa using hsome) hfirst hlast _

/-- Plain parameters are read back exactly when each of them but the last closes the quotes that it opens. -/
theorem parameterList_plain_iff {params : List String} {maxParams : Nat} (hplain : ∀ p ∈ params, Plain p)
    (htwo : 2 ≤ maxParams) (hmax : params.length ≤ maxParams) :
    parameterList maxParams (Text.joined ", " params) = params ↔
      ∀ p ∈ params.dropLast, Outside p.toList := by
  rcases params with _ | ⟨p, params⟩
  · simp [Text.joined, parameterList]
  obtain ⟨n, rfl⟩ := Nat.exists_eq_add_of_le' htwo
  have hsome := (trim_joined_plain (List.cons_ne_nil p params) hplain).1
  have hfree : ∀ t ∈ (p :: params).map (' ' :: ·.toList), ',' ∉ t := by
    intro t ht
    obtain ⟨q, hq, rfl⟩ := List.mem_map.1 ht
    simpa using (hplain q hq).no_comma
  have hlength : ((p :: params).map (' ' :: ·.toList)).length ≤ (n + 2 - 1) + 1 := by
    rw [List.length_map]
    exact hmax
  have hseparates : (∀ t ∈ ((p :: params).map (' ' :: ·.toList)).dropLast,
      (QuoteState.start.after t).separates = true) ↔ ∀ q ∈ (p :: params).dropLast, Outside q.toList := by
    rw [← List.map_dropLast, List.forall_mem_map]
    refine forall₂_congr fun q hq => ?_
    exact (hplain q (List.dropLast_subset _ hq)).separates_iff
  rw [parameterList_eq hsome htwo, blank_cons_joined (List.cons_ne_nil p params), ← hseparates]
  constructor
  · intro hread
    refine separates_of_length_pieces hfree hlength ?_
    have hkept := length_dropEmptyEnd_le ((pieces .start (some (n + 2 - 1))
      ([','].intercalate ((p :: params).map (' ' :: ·.toList)))).map readPiece)
    rw [hread, List.length_map] at hkept
    rwa [List.length_map]
  · intro hsep
    rw [pieces_intercalate (by simp) hfree hlength hsep, List.map_map]
    have hread : ∀ q ∈ p :: params, (readPiece ∘ (' ' :: ·.toList)) q = q := by
      intro q hq
      exact (readPiece_blank_cons q.toList).trans (hplain q hq).read_chars
    rw [List.map_congr_left hread, List.map_id']
    exact dropEmptyEnd_eq_self (fun q hq => (hplain q hq).full)

/-! ## §4 Lines -/

/-- A line made of a phrase, a blank and parameters with a comma and a blank between them. -/
def plainLine (phrase : Phrase) (params : List String) : String :=
  lineOf phrase (Text.joined ", " params)

open Vocabulary

/-- A line made of a phrase of a built-in action of several parameters, a blank, and as many plain parameters as the
action takes, such that no longer phrase begins the line, asks for this action with these parameters exactly when
each parameter but the last closes the quotes that it opens. So it is under the usual marker of comments and under
any other one that the line does not begin with. -/
theorem parse_plainLine_iff {a : Action Handler} {phrase : Phrase} {params : List String}
    (ha : a ∈ frozenVocabulary.actions) (htwo : 2 ≤ a.maxParams) (hphrase : phrase ∈ a.phrases)
    (hmin : a.minParams ≤ params.length) (hmax : params.length ≤ a.maxParams)
    (hplain : ∀ p ∈ params, Plain p)
    (hlongest : ∀ entry ∈ frozenVocabulary.phrases, ∀ rest,
      BeginsWith (plainLine phrase params) entry.1 rest → entry.1.length ≤ phrase.length) :
    (parse frozenVocabulary "#" (plainLine phrase params) = .ok ⟨a.key, params⟩ ↔
        ∀ p ∈ params.dropLast, Outside p.toList) ∧
      ∀ marker, ignorable marker (plainLine phrase params) = false →
        (parse frozenVocabulary marker (plainLine phrase params) = .ok ⟨a.key, params⟩ ↔
          ∀ p ∈ params.dropLast, Outside p.toList) := by
  have hentry : (phrase, a) ∈ frozenVocabulary.phrases :=
    List.mem_flatMap.2 ⟨a, ha, List.mem_map_of_mem hphrase⟩
  have hspelled : Spelled phrase := spelled_frozenVocabulary _ hentry
  have hne : params ≠ [] := by
    rintro rfl
    exact absurd (Nat.lt_of_lt_of_le (minParams_pos ha htwo) hmin) (Nat.lt_irrefl 0)
  obtain ⟨hsome, htrim⟩ := trim_joined_plain hne hplain
  have hmatches : ∀ other ∈ frozenVocabulary.phrases,
      phraseMatches other.1 (matchWords (Text.trim (plainLine phrase params))) = true →
        other.1.length ≤ phrase.length := by
    intro other hother hbegins
    exact hlongest other hother _
      ((beginsWith_iff (spelled_frozenVocabulary other hother).ne_nil).2 ⟨hbegins, rfl⟩)
  have htakes : parameters a (Text.joined ", " params) = .ok ⟨a.key, params⟩ ↔
      ∀ p ∈ params.dropLast, Outside p.toList := by
    rw [parameters_eq_ok_iff, takes_iff (by omega) hmin (fun p hp => (hplain p hp).full),
      parameterList_plain_iff hplain htwo hmax]
    simp
  have hparse : ∀ marker, ignorable marker (plainLine phrase params) = false →
      (parse frozenVocabulary marker (plainLine phrase params) = .ok ⟨a.key, params⟩ ↔
        ∀ p ∈ params.dropLast, Outside p.toList) := by
    intro marker hcounts
    rw [parse_eq_parameters nodup_frozenVocabulary hentry hspelled.ne_nil hcounts
      (beginsWith_lineOf hspelled htrim) hmatches (by omega), htakes]
  exact ⟨hparse "#" (ignorable_lineOf hspelled htrim hsome), hparse⟩

/-- Parameters with apostrophes in pairs, and with a single one at the end. -/
def rocking : List String := ["ann@example.org", "rock'n'roll", "Conan O'Brien"]

/-- A parameter with a single apostrophe, and another one after it. -/
def irish : List String := ["O'Brien", "secret"]

/-- What a line begins with can be looked up. -/
theorem longest_of_all (line : String) (n : Nat)
    (h : frozenVocabulary.phrases.all (fun entry =>
      !phraseMatches entry.1 (matchWords (Text.trim line)) || entry.1.length ≤ n) = true) :
    ∀ entry ∈ frozenVocabulary.phrases, ∀ rest, BeginsWith line entry.1 rest → entry.1.length ≤ n := by
  intro entry hentry rest hbegins
  have hmatches := ((beginsWith_iff (spelled_frozenVocabulary entry hentry).ne_nil).1 hbegins).1
  have hentryShort := List.all_eq_true.1 h entry hentry
  simpa [hmatches] using hentryShort

/-- Apostrophes in pairs are closed, and the one in the last parameter hides no comma. -/
theorem parse_plainLine_rocking :
    ∃ a ∈ frozenVocabulary.actions, a.key = "signup" ∧ 2 ≤ a.maxParams ∧ ["sign", "up"] ∈ a.phrases ∧
      a.minParams ≤ rocking.length ∧ rocking.length ≤ a.maxParams ∧ (∀ p ∈ rocking, Plain p) ∧
      (∀ entry ∈ frozenVocabulary.phrases, ∀ rest,
        BeginsWith (plainLine ["sign", "up"] rocking) entry.1 rest → entry.1.length ≤ 2) ∧
      plainLine ["sign", "up"] rocking = "sign up ann@example.org, rock'n'roll, Conan O'Brien" ∧
      parse frozenVocabulary "#" (plainLine ["sign", "up"] rocking) = .ok ⟨a.key, rocking⟩ := by
  have hany : frozenVocabulary.actions.any (fun a => a.key == "signup" && 2 ≤ a.maxParams &&
      a.phrases.contains ["sign", "up"] && a.minParams ≤ rocking.length &&
      rocking.length ≤ a.maxParams) = true := by
    decide +kernel
  obtain ⟨a, ha, hfacts⟩ := List.any_eq_true.1 hany
  simp only [Bool.and_eq_true, beq_iff_eq, decide_eq_true_eq, List.contains_iff_mem] at hfacts
  obtain ⟨⟨⟨⟨hkey, htwo⟩, hphrase⟩, hmin⟩, hmax⟩ := hfacts
  have hplain : ∀ p ∈ rocking, Plain p := by decide +kernel
  have hlongest := longest_of_all (plainLine ["sign", "up"] rocking) 2 (by decide +kernel)
  exact ⟨a, ha, hkey, htwo, hphrase, hmin, hmax, hplain, hlongest, by decide +kernel,
    (parse_plainLine_iff ha htwo hphrase hmin hmax hplain hlongest).1.2 (by decide +kernel)⟩

/-- A single apostrophe hides the comma after it: the line is refused for a missing parameter. -/
theorem parse_plainLine_irish :
    ∃ a ∈ frozenVocabulary.actions, a.key = "login" ∧ 2 ≤ a.maxParams ∧ ["login"] ∈ a.phrases ∧
      a.minParams ≤ irish.length ∧ irish.length ≤ a.maxParams ∧ (∀ p ∈ irish, Plain p) ∧
      (∀ entry ∈ frozenVocabulary.phrases, ∀ rest,
        BeginsWith (plainLine ["login"] irish) entry.1 rest → entry.1.length ≤ 1) ∧
      plainLine ["login"] irish = "login O'Brien, secret" ∧
      parse frozenVocabulary "#" (plainLine ["login"] irish)
        = .error (.missingParameters a.key 2 1 "login <username or email>, <password>") := by
  have hany : frozenVocabulary.actions.any (fun a => a.key == "login" && 2 ≤ a.maxParams &&
      a.phrases.contains ["login"] && a.minParams ≤ irish.length && irish.length ≤ a.maxParams) = true := by
    decide +kernel
  obtain ⟨a, ha, hfacts⟩ := List.any_eq_true.1 hany
  simp only [Bool.and_eq_true, beq_iff_eq, decide_eq_true_eq, List.contains_iff_mem] at hfacts
  obtain ⟨⟨⟨⟨hkey, htwo⟩, hphrase⟩, hmin⟩, hmax⟩ := hfacts
  have hlongest := longest_of_all (plainLine ["login"] irish) 1 (by decide +kernel)
  refine ⟨a, ha, hkey, htwo, hphrase, hmin, hmax, by decide +kernel, hlongest, by decide +kernel, ?_⟩
  rw [hkey]
  decide +kernel

end BrowserScript.Instruction
