/-
BrowserScript.Proofs.Instruction.CutPoints — where a text is cut into pieces.

A reader that cuts a text at its commas carries along what it knows of the text before it. The same is said
here of that text itself:

* `EscapesNext before`: `before` ends with a backslash that takes the meaning of the next character away.
* `Outside before`: every quote that was opened in `before` was closed in it.
* `Inside mark before`: a quote `mark` was opened in `before`, and since then every `mark` is escaped.

Sections:

* §1 The reader knows just this (`separates_after_iff`). Both sides grow by one character at the end, so the
  inductions take texts apart from the right.
* §2 No limit changes the text that the pieces are cut from (`intercalate_pieces`), and a limit joins the
  pieces again that it leaves no cut for (`pieces_limited`).
* §3 Between two pieces there is a comma at which the reader separates (`cutAfter_pieces`).

Main statement: `split_cuts`.
-/
import BrowserScript.Proofs.Instruction.QuotedParameters
import Mathlib.Data.List.Induction

namespace BrowserScript.Instruction

/-! ## §1 What the reader knows -/

/-- A text ends with a backslash that escapes the next character: the last run of backslashes escape each
other in pairs, and one is left. -/
def EscapesNext (before : List Char) : Prop := backslashes before % 2 = 1

/-- In `inner`, which follows `before`, every `mark` is escaped. -/
def Unbroken (mark : Char) (before inner : List Char) : Prop :=
  ∀ front back, inner = front ++ mark :: back → EscapesNext (before ++ front)

/-- Texts after which no quote is open. A quote is opened outside of others, unless it is escaped, and closed
by the next one of its kind that is not escaped. -/
inductive Outside : List Char → Prop
  | nil : Outside []
  | char {before : List Char} {c : Char} (hbefore : Outside before)
      (hc : isQuote c = true → EscapesNext before) : Outside (before ++ [c])
  | quoted {before inner : List Char} {mark : Char} (hbefore : Outside before) (hmark : isQuote mark = true)
      (hopens : ¬ EscapesNext before) (hinner : Unbroken mark (before ++ [mark]) inner)
      (hcloses : ¬ EscapesNext (before ++ mark :: inner)) : Outside (before ++ mark :: inner ++ [mark])

/-- Texts after which a quote `mark` is open. -/
def Inside (mark : Char) (text : List Char) : Prop :=
  ∃ before inner, text = before ++ mark :: inner ∧ Outside before ∧ isQuote mark = true ∧
    ¬ EscapesNext before ∧ Unbroken mark (before ++ [mark]) inner

theorem Unbroken.nil (mark : Char) (before : List Char) : Unbroken mark before [] := by
  intro front back h
  simp at h

theorem unbroken_cons {mark c : Char} {before inner : List Char} :
    Unbroken mark before (c :: inner) ↔
      (c = mark → EscapesNext before) ∧ Unbroken mark (before ++ [c]) inner := by
  constructor
  · intro h
    refine ⟨fun hc => ?_, fun front back hinner => ?_⟩
    · simpa using h [] inner (by simp [hc])
    · simpa using h (c :: front) back (by simp [hinner])
  · rintro ⟨hc, hinner⟩ front back h
    cases front with
    | nil =>
      simp only [List.nil_append, List.cons.injEq] at h
      simpa using hc h.1
    | cons d front =>
      simp only [List.cons_append, List.cons.injEq] at h
      obtain ⟨rfl, h⟩ := h
      simpa using hinner front back h

theorem unbroken_concat {mark c : Char} {before inner : List Char} (h : Unbroken mark before inner)
    (hc : c = mark → EscapesNext (before ++ inner)) : Unbroken mark before (inner ++ [c]) := by
  induction inner generalizing before with
  | nil => simpa [unbroken_cons, Unbroken.nil] using hc
  | cons d inner ih =>
    obtain ⟨hd, hinner⟩ := unbroken_cons.1 h
    exact unbroken_cons.2 ⟨hd, ih hinner (by simpa using hc)⟩

namespace QuoteState

variable {s : QuoteState} {c mark : Char}

/-- The place after a text. -/
def after (s : QuoteState) (cs : List Char) : QuoteState := cs.foldl next s

@[simp] theorem after_nil (s : QuoteState) : s.after [] = s := rfl

@[simp] theorem after_cons (s : QuoteState) (c : Char) (cs : List Char) :
    s.after (c :: cs) = (s.next c).after cs := rfl

@[simp] theorem after_concat (s : QuoteState) (cs : List Char) (c : Char) :
    s.after (cs ++ [c]) = (s.after cs).next c := by
  simp [after]

theorem next_escaped (s : QuoteState) (c : Char) : (s.next c).escaped = (!s.escaped && c == '\\') := by
  unfold next
  repeat' split
  all_goals simp_all

/-- Outside of quotes, a quote opens unless it is escaped. -/
theorem next_mark_outside (h : s.mark = none) (c : Char) :
    (s.next c).mark = if isQuote c && !s.escaped then some c else none := by
  unfold next
  by_cases hc : c = '\\'
  · cases hescaped : s.escaped <;> simp [hc, h, isQuote]
  · cases hescaped : s.escaped <;> cases isQuote c <;> simp [hc, h]

/-- Inside quotes, the same quote closes unless it is escaped. -/
theorem next_mark_inside (h : s.mark = some mark) (hmark : isQuote mark = true) (c : Char) :
    (s.next c).mark = if c = mark ∧ s.escaped = false then none else some mark := by
  have hslash : mark ≠ '\\' := by
    rintro rfl
    simp [isQuote] at hmark
  unfold next
  by_cases hc : c = '\\'
  · cases s.escaped <;> simp [hc, h, hslash.symm]
  · cases s.escaped <;> by_cases hsame : c = mark <;> simp_all

end QuoteState

open QuoteState

theorem escaped_after (text : List Char) : (QuoteState.start.after text).escaped = true ↔ EscapesNext text := by
  induction text using List.reverseRecOn with
  | nil => simp [start, EscapesNext, backslashes]
  | append_singleton text c ih =>
    simp only [EscapesNext] at ih ⊢
    rw [after_concat, next_escaped, backslashes_concat]
    by_cases hc : c = '\\'
    · simp [hc, ← Bool.not_eq_true, ih]
      omega
    · simp [hc]

theorem escaped_after_eq_false {text : List Char} :
    (QuoteState.start.after text).escaped = false ↔ ¬ EscapesNext text := by
  rw [← escaped_after, Bool.not_eq_true]

theorem EscapesNext.getLast? {before : List Char} (h : EscapesNext before) : before.getLast? = some '\\' := by
  obtain rfl | ⟨front, c, rfl⟩ := List.eq_nil_or_concat before
  · simp [EscapesNext, backslashes] at h
  · have hc : c = '\\' := by
      by_contra hother
      simp [EscapesNext, backslashes_concat, hother] at h
    simp [hc]

/-- As long as every `mark` is escaped, the quote stays open. -/
theorem mark_after_unbroken {mark : Char} (hmark : isQuote mark = true) {before inner : List Char}
    (hbefore : (QuoteState.start.after before).mark = some mark) (h : Unbroken mark before inner) :
    (QuoteState.start.after (before ++ inner)).mark = some mark := by
  induction inner generalizing before with
  | nil => simpa using hbefore
  | cons c inner ih =>
    obtain ⟨hc, hinner⟩ := unbroken_cons.1 h
    have hopen : (QuoteState.start.after (before ++ [c])).mark = some mark := by
      rw [after_concat, next_mark_inside hbefore hmark, if_neg]
      rintro ⟨hsame, hplain⟩
      exact escaped_after_eq_false.1 hplain (hc hsame)
    simpa using ih hopen hinner

theorem mark_after_open {mark : Char} {before inner : List Char}
    (hbefore : (QuoteState.start.after before).mark = none) (hmark : isQuote mark = true)
    (hopens : ¬ EscapesNext before) (hinner : Unbroken mark (before ++ [mark]) inner) :
    (QuoteState.start.after (before ++ mark :: inner)).mark = some mark := by
  have hopen : (QuoteState.start.after (before ++ [mark])).mark = some mark := by
    rw [after_concat, next_mark_outside hbefore, hmark, escaped_after_eq_false.2 hopens]
    rfl
  simpa using mark_after_unbroken hmark hopen hinner

theorem Outside.mark_after {text : List Char} (h : Outside text) :
    (QuoteState.start.after text).mark = none := by
  induction h with
  | nil => rfl
  | @char before c _ hc ih =>
    rw [after_concat, next_mark_outside ih]
    cases hquote : isQuote c with
    | false => rfl
    | true => simp [(escaped_after before).2 (hc hquote)]
  | @quoted before inner mark _ hmark hopens hinner hcloses ih =>
    have hopen := mark_after_open ih hmark hopens hinner
    rw [after_concat, next_mark_inside hopen hmark, if_pos ⟨rfl, escaped_after_eq_false.2 hcloses⟩]

theorem Inside.mark_after {mark : Char} {text : List Char} (h : Inside mark text) :
    (QuoteState.start.after text).mark = some mark := by
  obtain ⟨before, inner, rfl, hbefore, hmark, hopens, hinner⟩ := h
  exact mark_after_open hbefore.mark_after hmark hopens hinner

/-- After every text the reader is outside of quotes or inside of some. -/
theorem outside_or_inside (text : List Char) : Outside text ∨ ∃ mark, Inside mark text := by
  induction text using List.reverseRecOn with
  | nil => exact .inl .nil
  | append_singleton text c ih =>
    rcases ih with houtside | ⟨mark, before, inner, rfl, hbefore, hmark, hopens, hinner⟩
    · by_cases hopens : isQuote c = true ∧ ¬ EscapesNext text
      · exact .inr ⟨c, text, [], by simp, houtside, hopens.1, hopens.2, .nil c _⟩
      · refine .inl (.char houtside fun hquote => ?_)
        by_contra hplain
        exact hopens ⟨hquote, hplain⟩
    · by_cases hcloses : c = mark ∧ ¬ EscapesNext (before ++ mark :: inner)
      · obtain ⟨rfl, hcloses⟩ := hcloses
        exact .inl (.quoted hbefore hmark hopens hinner hcloses)
      · refine .inr ⟨mark, before, inner ++ [c], by simp, hbefore, hmark, hopens, ?_⟩
        refine unbroken_concat hinner fun hsame => ?_
        by_contra hplain
        exact hcloses ⟨hsame, by simpa using hplain⟩

theorem outside_iff (text : List Char) : Outside text ↔ (QuoteState.start.after text).mark = none := by
  constructor
  · exact Outside.mark_after
  · intro hnone
    rcases outside_or_inside text with houtside | ⟨mark, hinside⟩
    · exact houtside
    · rw [hinside.mark_after] at hnone
      cases hnone

instance (text : List Char) : Decidable (Outside text) := decidable_of_iff _ (outside_iff text).symm

/-- A comma after a text separates exactly when it is not escaped and no quote is open. -/
theorem separates_after_iff (before : List Char) :
    (QuoteState.start.after before).separates = true ↔
      ¬ EscapesNext before ∧ ∀ mark, ¬ Inside mark before := by
  have hnone : (QuoteState.start.after before).mark = none ↔ ∀ mark, ¬ Inside mark before := by
    constructor
    · intro hnone mark hinside
      rw [hinside.mark_after] at hnone
      cases hnone
    · intro hinside
      rcases outside_or_inside before with houtside | ⟨mark, h⟩
      · exact houtside.mark_after
      · exact absurd h (hinside mark)
  simp [separates, hnone, escaped_after_eq_false, and_comm]

/-! ## §2 Joined pieces -/

theorem pieces_cut {s : QuoteState} {cuts : Option Nat} (hs : s.separates = true) (hcuts : cuts ≠ some 0)
    (cs : List Char) :
    pieces s cuts (',' :: cs) = [] :: pieces (s.next ',') (cuts.map (· - 1)) cs := by
  simp [pieces, hs, hcuts]

theorem pieces_keep {s : QuoteState} {cuts : Option Nat} {c : Char}
    (h : ¬ (c = ',' ∧ s.separates = true ∧ cuts ≠ some 0)) (cs : List Char) :
    pieces s cuts (c :: cs) = consPiece c (pieces (s.next c) cuts cs) := by
  rw [pieces, if_neg]
  simpa [and_assoc] using h

theorem consPiece_ne_nil (c : Char) (ps : List (List Char)) : consPiece c ps ≠ [] := by
  cases ps <;> simp [consPiece]

theorem pieces_ne_nil (s : QuoteState) (cuts : Option Nat) (cs : List Char) : pieces s cuts cs ≠ [] := by
  cases cs with
  | nil => simp [pieces]
  | cons c cs =>
    rw [pieces]
    split
    · simp
    · exact consPiece_ne_nil _ _

theorem intercalate_consPiece (c : Char) (ps : List (List Char)) :
    [','].intercalate (consPiece c ps) = c :: [','].intercalate ps := by
  rcases ps with _ | ⟨p, _ | ⟨q, ps⟩⟩ <;> simp [consPiece, List.intercalate_cons_cons]

theorem intercalate_nil_cons {ps : List (List Char)} (hps : ps ≠ []) :
    [','].intercalate ([] :: ps) = ',' :: [','].intercalate ps := by
  obtain ⟨p, ps, rfl⟩ := List.exists_cons_of_ne_nil hps
  simp [List.intercalate_cons_cons]

/-- The pieces of a text, joined by commas, are the text. -/
theorem intercalate_pieces (s : QuoteState) (cuts : Option Nat) (cs : List Char) :
    [','].intercalate (pieces s cuts cs) = cs := by
  induction cs generalizing s cuts with
  | nil => simp [pieces]
  | cons c cs ih =>
    by_cases hcut : c = ',' ∧ s.separates = true ∧ cuts ≠ some 0
    · obtain ⟨rfl, hs, hcuts⟩ := hcut
      rw [pieces_cut hs hcuts, intercalate_nil_cons (pieces_ne_nil _ _ _), ih]
    · rw [pieces_keep hcut, intercalate_consPiece, ih]

/-- Some pieces put together again, if there are any. -/
def asOne {α : Type} (join : List α → α) : List α → List α
  | [] => []
  | p :: ps => [join (p :: ps)]

theorem asOne_of_ne_nil {α : Type} {join : List α → α} {ps : List α} (h : ps ≠ []) :
    asOne join ps = [join ps] := by
  obtain ⟨p, ps, rfl⟩ := List.exists_cons_of_ne_nil h
  rfl

theorem map_asOne {α β : Type} {f : α → β} {join : List α → α} {join' : List β → β}
    (h : ∀ ps, f (join ps) = join' (ps.map f)) (ps : List α) :
    (asOne join ps).map f = asOne join' (ps.map f) := by
  cases ps with
  | nil => rfl
  | cons p ps => simp [asOne, h]

theorem length_asOne_le {α : Type} (join : List α → α) (ps : List α) : (asOne join ps).length ≤ 1 := by
  cases ps <;> simp [asOne]

/-- A limited number of cuts are the first ones; what they leave stays in one piece. -/
theorem pieces_limited (s : QuoteState) (n : Nat) (cs : List Char) :
    pieces s (some n) cs
      = (pieces s none cs).take n ++ asOne [','].intercalate ((pieces s none cs).drop n) := by
  induction cs generalizing s n with
  | nil => cases n <;> simp [pieces, asOne]
  | cons c cs ih =>
    have hne : pieces (s.next c) none cs ≠ [] := pieces_ne_nil _ _ _
    by_cases hcut : c = ',' ∧ s.separates = true
    · obtain ⟨rfl, hs⟩ := hcut
      rw [@pieces_cut s none hs (by simp)]
      cases n with
      | zero =>
        rw [pieces_keep (by simp), ih]
        simp [asOne_of_ne_nil, hne, intercalate_nil_cons hne, consPiece]
      | succ n =>
        rw [pieces_cut hs (by simp)]
        simp [ih]
    · rw [@pieces_keep s none c (fun h => hcut ⟨h.1, h.2.1⟩),
        @pieces_keep s (some n) c (fun h => hcut ⟨h.1, h.2.1⟩), ih]
      obtain ⟨p, ps, hps⟩ := List.exists_cons_of_ne_nil hne
      cases n with
      | zero =>
        have hjoined : asOne [','].intercalate (consPiece c (pieces (s.next c) none cs))
            = [c :: [','].intercalate (pieces (s.next c) none cs)] := by
          rw [asOne_of_ne_nil (consPiece_ne_nil c _), intercalate_consPiece]
        rw [List.take_zero, List.drop_zero, List.take_zero, List.drop_zero, asOne_of_ne_nil hne, hjoined]
        rfl
      | succ n => simp [hps, consPiece]

/-- There are no more pieces than the limit says. -/
theorem length_split_le (text : String) {n : Int} (hn : 1 ≤ n) : ((split text (some n)).length : Int) ≤ n := by
  have hlast := length_asOne_le [','].intercalate ((pieces .start none text.toList).drop (n - 1).toNat)
  rw [split, cutsFor, Option.map_some, List.length_map, pieces_limited, List.length_append, List.length_take]
  omega

/-! ## §3 Cuts -/

/-- Some of the pieces, but not all, joined by commas are `before`, so a cut comes right after it. -/
def CutAfter (ps : List (List Char)) (before : List Char) : Prop :=
  ∃ front back, ps = front ++ back ∧ front ≠ [] ∧ back ≠ [] ∧ [','].intercalate front = before

theorem not_cutAfter_singleton (p before : List Char) : ¬ CutAfter [p] before := by
  rintro ⟨front, back, h, hfront, hback, -⟩
  obtain ⟨q, front, rfl⟩ := List.exists_cons_of_ne_nil hfront
  simp_all

theorem cutAfter_nil_cons {ps : List (List Char)} (hps : ps ≠ []) (before : List Char) :
    CutAfter ([] :: ps) before ↔ before = [] ∨ ∃ rest, ',' :: rest = before ∧ CutAfter ps rest := by
  constructor
  · rintro ⟨front, back, h, hfront, hback, rfl⟩
    obtain ⟨p, front, rfl⟩ := List.exists_cons_of_ne_nil hfront
    simp only [List.cons_append, List.cons.injEq] at h
    obtain ⟨rfl, rfl⟩ := h
    by_cases hnone : front = []
    · exact .inl (by simp [hnone])
    · exact .inr ⟨_, (intercalate_nil_cons hnone).symm, front, back, rfl, hnone, hback, rfl⟩
  · rintro (rfl | ⟨_, rfl, front, back, rfl, hfront, hback, rfl⟩)
    · exact ⟨[[]], ps, rfl, by simp, hps, by simp⟩
    · exact ⟨[] :: front, back, rfl, by simp, hback, intercalate_nil_cons hfront⟩

theorem cutAfter_consPiece (c : Char) {ps : List (List Char)} (hps : ps ≠ []) (before : List Char) :
    CutAfter (consPiece c ps) before ↔ ∃ rest, c :: rest = before ∧ CutAfter ps rest := by
  obtain ⟨p, ps, rfl⟩ := List.exists_cons_of_ne_nil hps
  constructor
  · rintro ⟨front, back, h, hfront, hback, rfl⟩
    obtain ⟨q, front, rfl⟩ := List.exists_cons_of_ne_nil hfront
    simp only [consPiece, List.cons_append, List.cons.injEq] at h
    obtain ⟨rfl, rfl⟩ := h
    exact ⟨_, (intercalate_consPiece c (p :: front)).symm, p :: front, back, rfl, by simp, hback, rfl⟩
  · rintro ⟨_, rfl, front, back, h, hfront, hback, rfl⟩
    obtain ⟨q, front, rfl⟩ := List.exists_cons_of_ne_nil hfront
    simp only [List.cons_append, List.cons.injEq] at h
    obtain ⟨rfl, rfl⟩ := h
    exact ⟨(c :: p) :: front, back, rfl, by simp, hback, intercalate_consPiece c (p :: front)⟩

/-- A text is cut exactly after the parts of it that a comma follows at which the reader separates. -/
theorem cutAfter_pieces (s : QuoteState) (cs before : List Char) :
    CutAfter (pieces s none cs) before ↔
      ∃ rest, cs = before ++ ',' :: rest ∧ (s.after before).separates = true := by
  induction cs generalizing s before with
  | nil => simp [pieces, not_cutAfter_singleton]
  | cons c cs ih =>
    have hne : pieces (s.next c) none cs ≠ [] := pieces_ne_nil _ _ _
    by_cases hcut : c = ',' ∧ s.separates = true
    · obtain ⟨rfl, hs⟩ := hcut
      rw [pieces_cut hs (by simp)]
      rw [Option.map_none, cutAfter_nil_cons hne]
      cases before with
      | nil => simp [hs]
      | cons d before =>
        simp only [ih, reduceCtorEq, false_or, List.cons.injEq, List.cons_append, after_cons, and_assoc,
          exists_and_left, exists_eq_left]
        exact and_congr_right fun hd => by rw [hd]
    · rw [pieces_keep (fun h => hcut ⟨h.1, h.2.1⟩), cutAfter_consPiece c hne]
      cases before with
      | nil => simpa using hcut
      | cons d before =>
        simp only [ih, List.cons.injEq, List.cons_append, after_cons, and_assoc, exists_and_left,
          exists_eq_left]
        exact and_congr_right fun hd => by rw [hd]

theorem toList_joined_comma (ps : List String) :
    (Text.joined "," ps).toList = [','].intercalate (ps.map String.toList) := by
  rcases ps with _ | ⟨p, ps⟩
  · rfl
  · rw [toList_joined]
    induction ps generalizing p with
    | nil => simp
    | cons q ps ih =>
      rw [List.flatMap_cons, List.append_assoc, ih, List.map_cons, List.map_cons, List.map_cons,
        List.intercalate_cons_cons, List.append_assoc]
      rfl

theorem split_none (text : String) : (split text none).map String.toList = pieces .start none text.toList := by
  simp [split, cutsFor, Function.comp_def]

/-- However many pieces a text is cut into, joined by commas they are the text again. Without a limit the cuts
are exactly the commas before which no backslash escapes and no quote is open. With a limit of `n` pieces there
are the first `n - 1` of these, and what remains, if anything does, stays together as one more; a limit of one
piece or less leaves the text whole. -/
theorem split_cuts (text : String) :
    (∀ limit, Text.joined "," (split text limit) = text) ∧
      (∀ before, CutAfter ((split text none).map String.toList) before ↔
        ∃ rest, text.toList = before ++ ',' :: rest ∧ ¬ EscapesNext before ∧
          ∀ mark, ¬ Inside mark before) ∧
      ∀ n : Int,
        split text (some n) = (split text none).take (n - 1).toNat
            ++ asOne (Text.joined ",") ((split text none).drop (n - 1).toNat) ∧
          (1 ≤ n → (split text (some n)).length ≤ n) ∧ (n ≤ 1 → split text (some n) = [text]) := by
  have hjoined : ∀ limit, Text.joined "," (split text limit) = text := by
    intro limit
    rw [← String.toList_inj, toList_joined_comma]
    simpa [split, Function.comp_def] using intercalate_pieces .start (cutsFor limit) text.toList
  have hlimited : ∀ n : Int, split text (some n) = (split text none).take (n - 1).toNat
      ++ asOne (Text.joined ",") ((split text none).drop (n - 1).toNat) := by
    intro n
    have hjoin : ∀ ps : List (List Char),
        String.ofList ([','].intercalate ps) = Text.joined "," (ps.map String.ofList) := by
      intro ps
      rw [← String.toList_inj, toList_joined_comma]
      simp [Function.comp_def]
    simp only [split, cutsFor, Option.map_some, Option.map_none, pieces_limited, List.map_append,
      map_asOne hjoin, List.map_take, List.map_drop]
  refine ⟨hjoined, fun before => ?_, fun n => ⟨hlimited n, length_split_le text, fun hn => ?_⟩⟩
  · rw [split_none, cutAfter_pieces]
    simp only [separates_after_iff]
  · have hnone : (n - 1).toNat = 0 := by omega
    have hne : split text none ≠ [] := by simp [split, pieces_ne_nil]
    rw [hlimited n, hnone, List.take_zero, List.drop_zero, asOne_of_ne_nil hne, hjoined none]
    rfl

/-- The comma inside the quotes and the one after the backslash are passed, the limit leaves one more cut, and
the last comma stays in the last piece. -/
theorem split_cuts_quoted :
    split "a\\,b,'c,d',e" none = ["a\\,b", "'c,d'", "e"] ∧ (1 : Int) ≤ 2 ∧
      split "a\\,b,'c,d',e" (some 2) = ["a\\,b", "'c,d',e"] ∧
      ((split "a\\,b,'c,d',e" (some 2)).length : Int) ≤ 2 ∧
      (1 : Int) ≤ 1 ∧ split "a\\,b,'c,d',e" (some 1) = ["a\\,b,'c,d',e"] := by
  obtain ⟨-, -, hlimit⟩ := split_cuts "a\\,b,'c,d',e"
  have hall : split "a\\,b,'c,d',e" none = ["a\\,b", "'c,d'", "e"] := by decide +kernel
  obtain ⟨htwo, hlength, -⟩ := hlimit 2
  rw [hall] at htwo
  exact ⟨hall, by decide, htwo.trans (by decide +kernel), hlength (by decide), by decide,
    (hlimit 1).2.2 (by decide)⟩

end BrowserScript.Instruction
