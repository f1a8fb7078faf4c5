/-
BrowserScript.Proofs.Instruction.Unwrapping — when the quotes around a text are removed.

Two readers look for the end of quoted text. The one that cuts at commas goes by escapes: a backslash takes the
meaning of the next character away, so two of them in a row cancel. The one that removes the quotes around a
text looks at the one character before each quote.

* `ClosesAtEnd`: the cutting reader closes the quote that opens a text with the last character, and not before.
  `closesAtEnd_iff` says this of the text itself: the quotes inside are escaped, the last one is not.
* `Slashed`: every quote inside has a backslash right before it. That is all that the other reader asks for
  (`unwraps_iff`).

An escaped quote has a backslash before it (`Unbroken.slashed`), so what the cutting reader takes for quoted text
loses its quotes. The converse fails where an even number of backslashes comes before a quote inside, or an odd
number before the last one.

Main statement: `unwraps_iff_closes_iff`, an exact condition on the text for the two readers to agree.
-/
import BrowserScript.Proofs.Instruction.CutPoints

namespace BrowserScript.Instruction

open QuoteState

/-! ## §1 The reader that cuts -/

/-- The quote that is open after the first character of a text is closed by the last character, and by none in
between. -/
structure ClosesAtEnd (text : List Char) : Prop where
  closed : (QuoteState.start.after text).mark = none
  not_before : ∀ before after, text = before ++ after → before ≠ [] → after ≠ [] →
    (QuoteState.start.after before).mark ≠ none

section Open

variable {mark c : Char} {before inner : List Char}

/-- An open quote is closed by the same quote, if that is not escaped. -/
theorem closed_iff (hmark : isQuote mark = true) (hbefore : (QuoteState.start.after before).mark = some mark) :
    (QuoteState.start.after (before ++ [c])).mark = none ↔ c = mark ∧ ¬ EscapesNext before := by
  rw [after_concat, next_mark_inside hbefore hmark, ← escaped_after_eq_false]
  simp

/-- What does not close an open quote leaves it open. -/
theorem mark_after_concat (hmark : isQuote mark = true)
    (hbefore : (QuoteState.start.after before).mark = some mark) (hc : c = mark → EscapesNext before) :
    (QuoteState.start.after (before ++ [c])).mark = some mark := by
  rw [after_concat, next_mark_inside hbefore hmark, if_neg]
  intro hcloses
  exact escaped_after_eq_false.1 hcloses.2 (hc hcloses.1)

/-- A quote stays open throughout what follows exactly when every `mark` in it is escaped. -/
theorem open_throughout_iff (hmark : isQuote mark = true)
    (hbefore : (QuoteState.start.after before).mark = some mark) :
    (∀ front back, inner = front ++ back → (QuoteState.start.after (before ++ front)).mark ≠ none) ↔
      Unbroken mark before inner := by
  constructor
  · intro hopen
    induction inner generalizing before with
    | nil => exact Unbroken.nil mark before
    | cons c inner ih =>
      have hescaped : c = mark → EscapesNext before := by
        intro hc
        by_contra hplain
        exact hopen [c] inner rfl ((closed_iff hmark hbefore).2 ⟨hc, hplain⟩)
      refine unbroken_cons.2 ⟨hescaped, ih (mark_after_concat hmark hbefore hescaped) ?_⟩
      intro front back hinner
      have hlater := hopen (c :: front) back (by simp [hinner])
      simpa using hlater
  · intro h front back hinner
    have hfront : Unbroken mark before front := by
      intro first rest hfirst
      exact h first (rest ++ back) (by simp [hinner, hfirst])
    rw [mark_after_unbroken hmark hbefore hfront]
    nofun

end Open

theorem mark_after_first {mark : Char} (hmark : isQuote mark = true) :
    (QuoteState.start.after [mark]).mark = some mark := by
  have hstart : QuoteState.start.mark = none := rfl
  rw [after_cons, after_nil, next_mark_outside hstart, hmark]
  rfl

/-- A text closes at its end when it ends with the quote that opens it, escaped everywhere inside and not escaped
at the end. -/
theorem closesAtEnd_iff {mark last : Char} {inner : List Char} (hmark : isQuote mark = true) :
    ClosesAtEnd (mark :: (inner ++ [last])) ↔
      last = mark ∧ Unbroken mark [mark] inner ∧ ¬ EscapesNext (mark :: inner) := by
  have hfirst := mark_after_first hmark
  have hopen : Unbroken mark [mark] inner → (QuoteState.start.after (mark :: inner)).mark = some mark :=
    mark_after_unbroken hmark hfirst
  constructor
  · intro h
    have hinner : Unbroken mark [mark] inner := by
      rw [← open_throughout_iff hmark hfirst]
      intro front back hfront
      exact h.not_before ([mark] ++ front) (back ++ [last]) (by simp [hfront]) (by simp) (by simp)
    obtain ⟨hsame, hplain⟩ := (closed_iff hmark (hopen hinner)).1 h.closed
    exact ⟨hsame, hinner, hplain⟩
  · rintro ⟨hsame, hinner, hplain⟩
    refine ⟨(closed_iff hmark (hopen hinner)).2 ⟨hsame, hplain⟩, ?_⟩
    intro before after htext hbefore hafter
    obtain ⟨c, front, rfl⟩ := List.exists_cons_of_ne_nil hbefore
    obtain ⟨back, d, rfl⟩ := (List.eq_nil_or_concat after).resolve_left hafter
    obtain ⟨rfl, htails⟩ := List.cons.inj htext
    have hconcat : inner ++ [last] = (front ++ back) ++ [d] := by simpa using htails
    obtain ⟨hfront, -⟩ := List.append_inj' hconcat rfl
    exact (open_throughout_iff hmark hfirst).2 hinner front back hfront

/-! ## §2 The reader that removes quotes -/

/-- In `inner`, which follows `before`, every `mark` has a backslash right before it. -/
def Slashed (mark : Char) (before inner : List Char) : Prop :=
  ∀ front back, inner = front ++ mark :: back → (before ++ front).getLast? = some '\\'

theorem slashed_cons {mark c : Char} {before inner : List Char} :
    Slashed mark before (c :: inner) ↔
      (c = mark → before.getLast? = some '\\') ∧ Slashed mark (before ++ [c]) inner := by
  constructor
  · intro h
    refine ⟨fun hc => ?_, fun front back hinner => ?_⟩
    · simpa using h [] inner (by simp [hc])
    · simpa using h (c :: front) back (by simp [hinner])
  · rintro ⟨hc, hinner⟩ front back h
    cases front with
    | nil =>
      simp only [List.nil_append, List.cons.injEq] at h
      simpa using hc h.1
    | cons d front =>
      simp only [List.cons_append, List.cons.injEq] at h
      obtain ⟨rfl, h⟩ := h
      simpa using hinner front back h

theorem hasBare_eq_false_iff {mark : Char} {before inner : List Char} :
    hasBare mark (before.getLast? == some '\\') inner = false ↔ Slashed mark before inner := by
  induction inner generalizing before with
  | nil =>
    refine iff_of_true rfl ?_
    intro front back h
    simp at h
  | cons c inner ih =>
    have hlast : (c == '\\') = ((before ++ [c]).getLast? == some '\\') := by simp
    rw [slashed_cons, ← ih, hasBare, hlast, Bool.or_eq_false_iff]
    refine and_congr_left fun _ => ?_
    by_cases hc : c = mark <;> simp [hc]

/-- The quotes around a text are removed, and the backslashes before the quotes inside of it. -/
def Unwraps (mark : Char) (text : String) : Prop :=
  ∃ inner, text.toList = mark :: (inner ++ [mark]) ∧ (unquote text).toList = unescape mark inner

theorem length_unescape_le (mark : Char) (cs : List Char) : (unescape mark cs).length ≤ cs.length := by
  fun_induction unescape mark cs with
  | case1 => simp
  | case2 => simp
  | case3 c d rest _ ih => simp; omega
  | case4 c d rest _ ih => simpa using ih

theorem toList_unquote (text : String) : (unquote text).toList = unquoteChars text.toList :=
  String.toList_ofList

/-- The quotes around a text are removed when it ends with the quote that opens it and every such quote inside
has a backslash before it. -/
theorem unwraps_iff {mark last : Char} {inner : List Char} {text : String} (hmark : isQuote mark = true)
    (htext : text.toList = mark :: (inner ++ [last])) :
    Unwraps mark text ↔ last = mark ∧ Slashed mark [mark] inner := by
  have hfirst : ([mark].getLast? == some '\\') = false := by
    have hslash : mark ≠ '\\' := by
      rintro rfl
      simp [isQuote] at hmark
    simp [hslash]
  have hbare : hasBare mark false inner = false ↔ Slashed mark [mark] inner := by
    rw [← hasBare_eq_false_iff, hfirst]
  have hunquote : (unquote text).toList
      = if last = mark ∧ hasBare mark false inner = false then unescape mark inner else text.toList := by
    rw [toList_unquote, htext]
    simp [unquoteChars, hmark]
  rw [← hbare, Unwraps, hunquote]
  constructor
  · rintro ⟨inside, hwrapped, hresult⟩
    by_contra hkept
    rw [if_neg hkept, hwrapped] at hresult
    have hlength := length_unescape_le mark inside
    rw [← hresult] at hlength
    simp only [List.length_cons, List.length_append, List.length_nil] at hlength
    omega
  · rintro ⟨rfl, hinside⟩
    exact ⟨inner, htext, by simp [hinside]⟩

/-! ## §3 Agreement -/

/-- What is escaped has a backslash right before it. -/
theorem Unbroken.slashed {mark : Char} {before inner : List Char} (h : Unbroken mark before inner) :
    Slashed mark before inner := by
  intro front back hinner
  exact (h front back hinner).getLast?

/-- Of a text that a quote opens, the quotes around it are removed just when the reader that cuts closes them at
its end, unless it ends with this quote, has a backslash before each such quote inside, and yet one of those is
not escaped or the last one is. -/
theorem unwraps_iff_closes_iff {mark last : Char} {inner : List Char} {text : String}
    (hmark : isQuote mark = true) (htext : text.toList = mark :: (inner ++ [last])) :
    (Unwraps mark text ↔ ClosesAtEnd text.toList) ↔
      (last = mark → Slashed mark [mark] inner →
        Unbroken mark [mark] inner ∧ ¬ EscapesNext (mark :: inner)) := by
  rw [unwraps_iff hmark htext, htext, closesAtEnd_iff hmark]
  constructor
  · intro hagree hsame hslashed
    exact (hagree.1 ⟨hsame, hslashed⟩).2
  · intro hescaped
    constructor
    · rintro ⟨hsame, hslashed⟩
      exact ⟨hsame, hescaped hsame hslashed⟩
    · rintro ⟨hsame, hunbroken, -⟩
      exact ⟨hsame, hunbroken.slashed⟩

/-- An escaped quote inside is read alike: the text is quoted as a whole. -/
theorem unwraps_iff_closes_iff_escaped :
    isQuote '"' = true ∧ "\"a\\\"b\"".toList = '"' :: (['a', '\\', '"', 'b'] ++ ['"']) ∧
      (Unwraps '"' "\"a\\\"b\"" ↔ ClosesAtEnd "\"a\\\"b\"".toList) ∧
      unquote "\"a\\\"b\"" = "a\"b" := by
  have hmark : isQuote '"' = true := by decide
  have htext : "\"a\\\"b\"".toList = '"' :: (['a', '\\', '"', 'b'] ++ ['"']) := by decide
  refine ⟨hmark, htext, (unwraps_iff_closes_iff hmark htext).2 ?_, by decide⟩
  intro _ _
  simp [unbroken_cons, Unbroken.nil, EscapesNext, backslashes]

/-- Two backslashes cancel, so a quote after them closes; it is taken for an escaped one when the quotes around
the text are removed. A single backslash before the last quote keeps it from closing, and the quotes are removed
all the same. -/
theorem unwraps_unclosed :
    (unquote "\"a\\\\\"b\"" = "a\\\"b" ∧ Unwraps '"' "\"a\\\\\"b\"" ∧
        ¬ ClosesAtEnd "\"a\\\\\"b\"".toList) ∧
      unquote "\"a\\\"" = "a\\" ∧ Unwraps '"' "\"a\\\"" ∧ ¬ ClosesAtEnd "\"a\\\"".toList := by
  refine ⟨⟨by decide, ⟨['a', '\\', '\\', '"', 'b'], by decide, by decide⟩, ?_⟩,
    by decide, ⟨['a', '\\'], by decide, by decide⟩, ?_⟩
  · intro hcloses
    exact hcloses.not_before ['"', 'a', '\\', '\\', '"'] ['b', '"'] (by decide) (by simp) (by simp)
      (by decide)
  · intro hcloses
    exact absurd hcloses.closed (by decide)

end BrowserScript.Instruction
