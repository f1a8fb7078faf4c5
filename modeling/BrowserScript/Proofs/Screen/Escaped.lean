/-
BrowserScript.Proofs.Screen.Escaped — text that is shown as it is.

Markup cannot be shown exactly when a closing tag closes nothing. So only the tags of a text count, and of an
escaped text none is left. Escaping looks at a text alone, though, and markup follows it: a text that ends in
three backslashes makes the tag behind it plain text. No other tag is touched, and none is made.

* `tags` lists the tags of a text, `plain_isOk` says that only they decide whether it can be shown.
* `settled`: no tag begins in a text and ends behind it. Then its tags come before those of what follows
  (`tags_append`).
* `tags_escape`: of an escaped text and what follows it, only the tags of the latter are left, all of them or
  all but the one at its beginning.
* `frames`: whether any escaped text can stand between two parts of markup (`plain_framed`).
* `Block.Shows` and its rules say the same of blocks.
-/
import BrowserScript.Screen.Block

namespace BrowserScript.Screen
namespace Markup

/-! ## §1 The tag at the beginning of a text -/

/-- What stands between the brackets of a tag. -/
structure IsTag (tag : List Char) : Prop where
  begins : ∃ c rest, tag = c :: rest ∧ beginsTag c = true
  bare : ∀ c ∈ tag, c ≠ '[' ∧ c ≠ ']'

theorem beginsTag_ne {c : Char} (h : beginsTag c = true) : c ≠ '[' ∧ c ≠ ']' ∧ c ≠ '\\' := by
  refine ⟨?_, ?_, ?_⟩ <;> rintro rfl <;> exact absurd h (by decide)

theorem upToClose_cons (c : Char) (cs : List Char) :
    upToClose (c :: cs) = if c == ']' then some [] else if c == '[' then none
      else (upToClose cs).map (c :: ·) := rfl

theorem upToClose_eq_some {cs found : List Char} :
    upToClose cs = some found ↔
      (∀ c ∈ found, c ≠ '[' ∧ c ≠ ']') ∧ ∃ rest, cs = found ++ ']' :: rest := by
  induction cs generalizing found with
  | nil => simp [upToClose]
  | cons c cs ih =>
    rw [upToClose_cons]
    by_cases hclose : c = ']'
    · subst hclose
      cases found with
      | nil => simp
      | cons d more =>
        simp only [beq_self_eq_true, if_true]
        constructor
        · nofun
        · rintro ⟨hbare, rest, h⟩
          cases h
          exact absurd rfl (hbare ']' List.mem_cons_self).2
    · by_cases hopen : c = '['
      · subst hopen
        constructor
        · simp
        · rintro ⟨hbare, rest, h⟩
          cases found with
          | nil => cases h
          | cons d more =>
            cases h
            exact absurd rfl (hbare '[' List.mem_cons_self).1
      · simp only [beq_iff_eq, hclose, hopen, if_false, Option.map_eq_some_iff]
        constructor
        · rintro ⟨more, hmore, rfl⟩
          obtain ⟨hbare, rest, rfl⟩ := ih.1 hmore
          refine ⟨?_, rest, rfl⟩
          intro d hd
          rcases List.mem_cons.1 hd with rfl | hd
          · exact ⟨hopen, hclose⟩
          · exact hbare d hd
        · rintro ⟨hbare, rest, h⟩
          cases found with
          | nil =>
            cases h
            exact absurd rfl hclose
          | cons d more =>
            cases h
            exact ⟨more, ih.2 ⟨fun x hx => hbare x (List.mem_cons_of_mem _ hx), rest, rfl⟩, rfl⟩

theorem tagAfterBracket_eq_some {cs tag : List Char} :
    tagAfterBracket cs = some tag ↔ IsTag tag ∧ ∃ rest, cs = tag ++ ']' :: rest := by
  cases cs with
  | nil => simp [tagAfterBracket]
  | cons c cs =>
    simp only [tagAfterBracket]
    constructor
    · intro h
      split at h
      · rename_i hbegins
        obtain ⟨more, hmore, rfl⟩ := Option.map_eq_some_iff.1 h
        obtain ⟨hbare, rest, rfl⟩ := upToClose_eq_some.1 hmore
        obtain ⟨hopen, hclose, -⟩ := beginsTag_ne hbegins
        refine ⟨⟨⟨c, more, rfl, hbegins⟩, ?_⟩, rest, rfl⟩
        intro d hd
        rcases List.mem_cons.1 hd with rfl | hd
        · exact ⟨hopen, hclose⟩
        · exact hbare d hd
      · cases h
    · rintro ⟨⟨⟨d, more, rfl, hbegins⟩, hbare⟩, rest, h⟩
      cases h
      rw [if_pos hbegins]
      refine Option.map_eq_some_iff.2 ⟨more, upToClose_eq_some.2 ⟨?_, rest, rfl⟩, rfl⟩
      exact fun x hx => hbare x (List.mem_cons_of_mem _ hx)

theorem tagAt_slash (cs : List Char) :
    tagAt ('\\' :: cs) = (tagAt cs).map (fun x => (x.1 + 1, x.2)) := by
  simp only [tagAt, List.takeWhile_cons, beq_self_eq_true, if_true, List.length_cons, List.drop_succ_cons]
  split
  · rw [Option.map_map]
    rfl
  · rfl

theorem tagAt_bracket (cs : List Char) : tagAt ('[' :: cs) = (tagAfterBracket cs).map (0, ·) := rfl

theorem tagAt_other {c : Char} (hslash : c ≠ '\\') (hopen : c ≠ '[') (cs : List Char) :
    tagAt (c :: cs) = none := by
  simp [tagAt, hslash, hopen]

/-- A tag behind backslashes. -/
def tagText (slashes : Nat) (tag rest : List Char) : List Char :=
  List.replicate slashes '\\' ++ '[' :: (tag ++ ']' :: rest)

theorem tagAt_eq_some {cs tag : List Char} {slashes : Nat} :
    tagAt cs = some (slashes, tag) ↔ IsTag tag ∧ ∃ rest, cs = tagText slashes tag rest := by
  induction cs generalizing slashes with
  | nil =>
    constructor
    · nofun
    · rintro ⟨-, rest, h⟩
      cases slashes <;> simp [tagText, List.replicate_succ] at h
  | cons c cs ih =>
    by_cases hslash : c = '\\'
    · subst hslash
      rw [tagAt_slash]
      cases slashes with
      | zero => simp [tagText]
      | succ n =>
        constructor
        · intro h
          obtain ⟨⟨k, found⟩, hfound, heq⟩ := Option.map_eq_some_iff.1 h
          cases heq
          obtain ⟨htag, rest, rfl⟩ := ih.1 hfound
          exact ⟨htag, rest, by simp [tagText, List.replicate_succ]⟩
        · rintro ⟨htag, rest, h⟩
          simp only [tagText, List.replicate_succ, List.cons_append, List.cons.injEq, true_and] at h
          rw [ih.2 ⟨htag, rest, h⟩]
          rfl
    · by_cases hopen : c = '['
      · subst hopen
        rw [tagAt_bracket]
        cases slashes with
        | zero => simp [tagText, tagAfterBracket_eq_some]
        | succ n => simp [tagText, List.replicate_succ]
      · rw [tagAt_other hslash hopen]
        constructor
        · nofun
        · rintro ⟨-, rest, h⟩
          cases slashes with
          | zero =>
            simp only [tagText, List.replicate_zero, List.nil_append, List.cons.injEq] at h
            exact absurd h.1 hopen
          | succ n =>
            simp only [tagText, List.replicate_succ, List.cons_append, List.cons.injEq] at h
            exact absurd h.1 hslash

/-! ## §2 The tags of a text -/

/-- The tags of a text after its first `skip` characters. A tag behind an odd number of backslashes is plain
text. -/
def tagsAfter : Nat → List Char → List (List Char)
  | _, [] => []
  | skip + 1, _ :: rest => tagsAfter skip rest
  | 0, c :: rest =>
    match tagAt (c :: rest) with
    | some (slashes, tag) =>
      (if slashes % 2 == 1 then [] else [tag]) ++ tagsAfter (slashes + tag.length + 1) rest
    | none => tagsAfter 0 rest

/-- The tags of a text. -/
def tags (cs : List Char) : List (List Char) := tagsAfter 0 cs

/-- The tag that a piece is. -/
def Piece.tag? : Piece → Option (List Char)
  | .tag cs => some cs
  | .text _ => none

theorem filterMap_piecesAfter (plain : List Char) (skip : Nat) (cs : List Char) :
    (piecesAfter plain skip cs).filterMap Piece.tag? = tagsAfter skip cs := by
  have hflush : ∀ plain, (flush plain).filterMap Piece.tag? = [] := by
    intro plain
    unfold flush
    split <;> rfl
  induction cs generalizing plain skip with
  | nil => cases skip <;> exact hflush plain
  | cons c rest ih =>
    cases skip with
    | succ n => exact ih plain n
    | zero =>
      cases htag : tagAt (c :: rest) with
      | none =>
        simp only [piecesAfter, tagsAfter, htag]
        exact ih _ 0
      | some found =>
        obtain ⟨slashes, tag⟩ := found
        have hpieces : (tagPieces slashes tag).filterMap Piece.tag?
            = if slashes % 2 == 1 then [] else [tag] := by
          unfold tagPieces
          cases slashes / 2 == 0 <;> cases slashes % 2 == 1 <;> rfl
        simp only [piecesAfter, tagsAfter, htag, List.filterMap_append, hflush, hpieces, ih, List.nil_append]

/-- The styles that are open after some tags. -/
def stylesAfter (tags : List (List Char)) : Except Fault (List String) := tags.foldlM afterTag []

theorem seen_isOk (styles : List String) (ps : List Piece) :
    (seen styles ps).isOk = ((ps.filterMap Piece.tag?).foldlM afterTag styles).isOk := by
  induction ps generalizing styles with
  | nil => rfl
  | cons p rest ih =>
    cases p with
    | text cs =>
      rw [List.filterMap_cons_none (by rfl), ← ih]
      show ((seen styles rest).map (shown cs ++ ·)).isOk = _
      cases seen styles rest <;> rfl
    | tag cs =>
      rw [List.filterMap_cons_some (b := cs) (by rfl), List.foldlM_cons]
      simp only [seen]
      cases afterTag styles cs with
      | error fault => rfl
      | ok after => exact ih after

/-- Whether a text can be shown is decided by its tags. -/
theorem plain_isOk (s : String) : (plain s).isOk = (stylesAfter (tags s.toList)).isOk := by
  have h := seen_isOk [] (pieces s.toList)
  rw [pieces, filterMap_piecesAfter] at h
  rw [stylesAfter, tags, ← h, plain, pieces]
  cases seen [] (piecesAfter [] 0 s.toList) <;> rfl

theorem tagsAfter_skip (x y : List Char) (n : Nat) : tagsAfter (x.length + n) (x ++ y) = tagsAfter n y := by
  induction x with
  | nil => simp
  | cons c x ih =>
    rw [List.length_cons, Nat.add_right_comm, List.cons_append]
    exact ih

theorem tagsAfter_of_some {cs tag : List Char} {slashes : Nat} (h : tagAt cs = some (slashes, tag)) :
    tagsAfter 0 cs = (if slashes % 2 == 1 then [] else [tag]) ++ tagsAfter (slashes + tag.length + 2) cs := by
  cases cs with
  | nil => cases h
  | cons c rest => simp only [tagsAfter, h]

theorem tagsAfter_of_none {c : Char} {rest : List Char} (h : tagAt (c :: rest) = none) :
    tagsAfter 0 (c :: rest) = tagsAfter 0 rest := by
  simp only [tagsAfter, h]

theorem tagsAfter_tagText {tag : List Char} (htag : IsTag tag) (slashes : Nat) (rest : List Char) :
    tagsAfter 0 (tagText slashes tag rest)
      = (if slashes % 2 == 1 then [] else [tag]) ++ tagsAfter 0 rest := by
  rw [tagsAfter_of_some (tagAt_eq_some.2 ⟨htag, rest, rfl⟩)]
  have hsplit : tagText slashes tag rest
      = (List.replicate slashes '\\' ++ '[' :: (tag ++ [']'])) ++ rest := by
    simp [tagText]
  have hlength : (List.replicate slashes '\\' ++ '[' :: (tag ++ [']'])).length + 0
      = slashes + tag.length + 2 := by
    simp
    omega
  rw [hsplit, ← hlength, tagsAfter_skip]

/-! ## §3 Parts of a text -/

/-- Whether every bracket and every backslash has a closing bracket behind it, so that no tag begins in the
text and ends behind it. -/
def settled : List Char → Bool
  | [] => true
  | c :: rest => ((c != '[' && c != '\\') || rest.contains ']') && settled rest

theorem upToClose_append {x : List Char} (h : ']' ∈ x) (y : List Char) : upToClose (x ++ y) = upToClose x := by
  induction x with
  | nil => cases h
  | cons c x ih =>
    rw [List.cons_append, upToClose_cons, upToClose_cons]
    by_cases hclose : c = ']'
    · simp [hclose]
    · rcases List.mem_cons.1 h with rfl | h
      · exact absurd rfl hclose
      · rw [ih h]

theorem tagAt_append {x : List Char} (hne : x ≠ []) (h : settled x = true) (y : List Char) :
    tagAt (x ++ y) = tagAt x := by
  induction x with
  | nil => exact absurd rfl hne
  | cons c x ih =>
    simp only [settled, Bool.and_eq_true, Bool.or_eq_true, bne_iff_ne, List.contains_iff_mem] at h
    obtain ⟨hc, hx⟩ := h
    rw [List.cons_append]
    by_cases hslash : c = '\\'
    · have hclose : ']' ∈ x := by simpa [hslash] using hc
      rw [hslash, tagAt_slash, tagAt_slash, ih (List.ne_nil_of_mem hclose) hx]
    · by_cases hopen : c = '['
      · have hclose : ']' ∈ x := by simpa [hopen] using hc
        rw [hopen, tagAt_bracket, tagAt_bracket]
        cases x with
        | nil => cases hclose
        | cons d x =>
          simp only [List.cons_append, tagAfterBracket]
          split
          · rename_i hbegins
            rcases List.mem_cons.1 hclose with rfl | hclose
            · exact absurd rfl (beginsTag_ne hbegins).2.1
            · rw [upToClose_append hclose]
          · rfl
      · rw [tagAt_other hslash hopen, tagAt_other hslash hopen]

theorem tagsAfter_append {x : List Char} (h : settled x = true) {n : Nat} (hn : n ≤ x.length)
    (y : List Char) : tagsAfter n (x ++ y) = tagsAfter n x ++ tagsAfter 0 y := by
  induction x generalizing n with
  | nil =>
    have hzero : n = 0 := by simpa using hn
    subst hzero
    rfl
  | cons c x ih =>
    have hx : settled x = true := (Bool.and_eq_true_iff.1 h).2
    cases n with
    | succ n => exact ih hx (by simpa using hn)
    | zero =>
      have hsame := tagAt_append (List.cons_ne_nil c x) h y
      simp only [List.cons_append] at hsame ⊢
      cases htag : tagAt (c :: x) with
      | none =>
        rw [htag] at hsame
        rw [tagsAfter_of_none hsame, tagsAfter_of_none htag]
        exact ih hx (Nat.zero_le _)
      | some found =>
        obtain ⟨slashes, tag⟩ := found
        rw [htag] at hsame
        obtain ⟨-, rest, hrest⟩ := tagAt_eq_some.1 htag
        have hlength : slashes + tag.length + 1 ≤ x.length := by
          have := congrArg List.length hrest
          simp [tagText] at this
          omega
        rw [tagsAfter_of_some hsame, tagsAfter_of_some htag, List.append_assoc]
        exact congrArg _ (ih hx hlength)

/-- The tags of a settled text come before those of what follows. -/
theorem tags_append {x : List Char} (h : settled x = true) (y : List Char) :
    tags (x ++ y) = tags x ++ tags y :=
  tagsAfter_append h (Nat.zero_le _) y

section Escaped

variable {w : List Char}

theorem upToClose_slashes (n : Nat) (rest : List Char) :
    upToClose (List.replicate n '\\' ++ '[' :: rest) = none := by
  induction n with
  | zero => rfl
  | succ n ih =>
    rw [List.replicate_succ, List.cons_append, upToClose_cons, ih]
    rfl

/-- Escaping brings no closing bracket nearer. -/
theorem upToClose_escapeTags (hw : upToClose w = none) {cs : List Char} (h : upToClose cs = none) :
    upToClose (escapeTags 0 cs ++ w) = none := by
  induction cs with
  | nil => exact hw
  | cons c cs ih =>
    simp only [escapeTags]
    split
    · simp only [List.cons_append, List.append_assoc]
      exact upToClose_slashes _ _
    · rw [List.cons_append, upToClose_cons]
      rw [upToClose_cons] at h
      by_cases hclose : c = ']'
      · simp [hclose] at h
      · by_cases hopen : c = '['
        · simp [hopen]
        · simp only [beq_iff_eq, hclose, hopen, if_false, Option.map_eq_none_iff] at h ⊢
          exact ih h

theorem tagAfterBracket_of_upToClose (hw : upToClose w = none) : tagAfterBracket w = none := by
  cases htag : tagAfterBracket w with
  | none => rfl
  | some tag =>
    obtain ⟨⟨-, hbare⟩, rest, rfl⟩ := tagAfterBracket_eq_some.1 htag
    rw [upToClose_eq_some.2 ⟨hbare, rest, rfl⟩] at hw
    cases hw

theorem tagAfterBracket_escapeTags (hw : upToClose w = none) {cs : List Char}
    (h : tagAfterBracket cs = none) : tagAfterBracket (escapeTags 0 cs ++ w) = none := by
  cases cs with
  | nil => exact tagAfterBracket_of_upToClose hw
  | cons c cs =>
    simp only [escapeTags]
    split
    · rename_i slashes tag _
      rw [show 2 * slashes + 1 = (2 * slashes).succ from rfl, List.replicate_succ]
      rfl
    · simp only [tagAfterBracket] at h
      simp only [List.cons_append, tagAfterBracket]
      split
      · rename_i hbegins
        rw [if_pos hbegins, Option.map_eq_none_iff] at h
        rw [upToClose_escapeTags hw h]
        rfl
      · rfl

/-- Where a text has no tag, escaping makes none, unless there is nothing left but backslashes. -/
theorem tagAt_escapeTags (hw : upToClose w = none) {cs : List Char} (h : tagAt cs = none) :
    tagAt (escapeTags 0 cs ++ w) = none ∨ ∃ n, cs = List.replicate n '\\' := by
  induction cs with
  | nil => exact .inr ⟨0, rfl⟩
  | cons c cs ih =>
    simp only [escapeTags, h]
    by_cases hslash : c = '\\'
    · subst hslash
      rw [tagAt_slash, Option.map_eq_none_iff] at h
      rcases ih h with hnone | ⟨n, rfl⟩
      · exact .inl (by rw [List.cons_append, tagAt_slash, hnone]; rfl)
      · exact .inr ⟨n + 1, rfl⟩
    · refine .inl ?_
      rw [List.cons_append]
      by_cases hopen : c = '['
      · subst hopen
        rw [tagAt_bracket, Option.map_eq_none_iff] at h
        rw [tagAt_bracket, tagAfterBracket_escapeTags hw h]
        rfl
      · exact tagAt_other hslash hopen _

theorem tagAt_slashes (n : Nat) (w : List Char) :
    tagAt (List.replicate n '\\' ++ w) = (tagAt w).map (fun x => (x.1 + n, x.2)) := by
  induction n with
  | zero => simp
  | succ n ih =>
    rw [List.replicate_succ, List.cons_append, tagAt_slash, ih, Option.map_map]
    rfl

theorem escapeTags_slashes (n : Nat) : escapeTags 0 (List.replicate n '\\') = List.replicate n '\\' := by
  induction n with
  | zero => rfl
  | succ n ih =>
    have hnone : tagAt ('\\' :: List.replicate n '\\') = none := by
      have h := tagAt_slashes (n + 1) []
      rwa [List.append_nil] at h
    rw [List.replicate_succ]
    simp only [escapeTags, hnone, ih]

/-- What is left of the tags of a text when something stands before it: all of them, or all but the one at
its beginning, however many backslashes that has. -/
def Left (found : List (List Char)) (w : List Char) : Prop :=
  match tagAt w with
  | none => found = tagsAfter 0 w
  | some (slashes, tag) =>
    found = tag :: tagsAfter (slashes + tag.length + 2) w ∨ found = tagsAfter (slashes + tag.length + 2) w

theorem left_slashes (n : Nat) (w : List Char) : Left (tagsAfter 0 (List.replicate n '\\' ++ w)) w := by
  unfold Left
  cases htag : tagAt w with
  | none =>
    induction n with
    | zero => rfl
    | succ n ih =>
      have hnone := tagAt_slashes (n + 1) w
      rw [htag] at hnone
      rw [List.replicate_succ, List.cons_append] at hnone ⊢
      rw [tagsAfter_of_none hnone]
      exact ih
  | some found =>
    obtain ⟨slashes, tag⟩ := found
    have hsome := tagAt_slashes n w
    rw [htag] at hsome
    have hskip := tagsAfter_skip (List.replicate n '\\') w (slashes + tag.length + 2)
    rw [List.length_replicate] at hskip
    rw [tagsAfter_of_some hsome, show slashes + n + tag.length + 2 = n + (slashes + tag.length + 2) by omega,
      hskip]
    cases (slashes + n) % 2 == 1 with
    | true => exact .inr rfl
    | false => exact .inl rfl

theorem left_escapeTags (hw : upToClose w = none) (skip : Nat) (cs : List Char) :
    Left (tagsAfter 0 (escapeTags skip cs ++ w)) w := by
  induction cs generalizing skip with
  | nil => cases skip <;> exact left_slashes 0 w
  | cons c cs ih =>
    cases skip with
    | succ n => exact ih n
    | zero =>
      cases htag : tagAt (c :: cs) with
      | some found =>
        obtain ⟨slashes, tag⟩ := found
        have hescaped : escapeTags 0 (c :: cs) ++ w
            = tagText (2 * slashes + 1) tag (escapeTags (slashes + tag.length + 1) cs ++ w) := by
          simp [escapeTags, htag, tagText]
        have hodd : ((2 * slashes + 1) % 2 == 1) = true := by
          rw [beq_iff_eq]
          omega
        rw [hescaped, tagsAfter_tagText (tagAt_eq_some.1 htag).1, if_pos hodd]
        exact ih _
      | none =>
        have hkept : escapeTags 0 (c :: cs) = c :: escapeTags 0 cs := by simp only [escapeTags, htag]
        rcases tagAt_escapeTags hw htag with hnone | ⟨n, hslashes⟩
        · rw [hkept, List.cons_append] at hnone ⊢
          rw [tagsAfter_of_none hnone]
          exact ih 0
        · rw [hslashes, escapeTags_slashes]
          exact left_slashes n w

/-- A backslash before a text leaves no more of its tags than the text itself. -/
theorem left_of_slash {found : List (List Char)} (h : Left found ('\\' :: w)) : Left found w := by
  unfold Left at h ⊢
  rw [tagAt_slash] at h
  cases htag : tagAt w with
  | none =>
    rw [htag] at h
    have hnone : tagAt ('\\' :: w) = none := by rw [tagAt_slash, htag]; rfl
    exact h.trans (tagsAfter_of_none hnone)
  | some first =>
    obtain ⟨slashes, tag⟩ := first
    rw [htag] at h
    have hskip : tagsAfter (slashes + 1 + tag.length + 2) ('\\' :: w) = tagsAfter (slashes + tag.length + 2) w := by
      rw [show slashes + 1 + tag.length + 2 = (slashes + tag.length + 2) + 1 by omega]
      rfl
    simpa only [Option.map_some, hskip] using h

/-- Where a text does not begin with a backslash, the tag at its beginning has none before it. -/
theorem left_cases {found : List (List Char)} (hslash : w.head? ≠ some '\\') (h : Left found w) :
    found = tags w ∨ ∃ tag, tagAt w = some (0, tag) ∧ found = tagsAfter (tag.length + 2) w := by
  unfold Left at h
  cases htag : tagAt w with
  | none =>
    rw [htag] at h
    exact .inl h
  | some first =>
    obtain ⟨slashes, tag⟩ := first
    obtain ⟨-, rest, rfl⟩ := tagAt_eq_some.1 htag
    cases slashes with
    | succ n => exact absurd rfl hslash
    | zero =>
      rw [htag] at h
      simp only [Nat.zero_add] at h
      rcases h with hall | hrest
      · refine .inl (hall.trans ?_)
        have hfirst := tagsAfter_of_some htag
        rw [Nat.zero_add] at hfirst
        exact hfirst.symm
      · exact .inr ⟨tag, rfl, hrest⟩

end Escaped

/-- Of an escaped text and what follows it, only the tags of the latter are left: all of them, or all but the
one at its beginning. -/
theorem tags_escape {b : List Char} (hb : upToClose b = none) (hslash : b.head? ≠ some '\\') (s : String) :
    tags ((escape s).toList ++ b) = tags b ∨
      ∃ tag, tagAt b = some (0, tag) ∧ tags ((escape s).toList ++ b) = tagsAfter (tag.length + 2) b := by
  refine left_cases hslash ?_
  simp only [escape, String.toList_ofList, closeSlash]
  split
  · -- the backslash that is added stands before what follows
    have hslashed : upToClose ('\\' :: b) = none := by rw [upToClose_cons, hb]; rfl
    rw [List.append_assoc]
    exact left_of_slash (left_escapeTags hslashed 0 s.toList)
  · exact left_escapeTags hb 0 s.toList

/-! ## §5 Markup around texts -/

/-- Whether every closing tag closes something. -/
def closes (tags : List (List Char)) : Bool := (stylesAfter tags).isOk

/-- Whether any escaped text can stand between two parts of markup. -/
def frames (before after : List Char) : Bool :=
  settled before && (upToClose after).isNone && after.head? != some '\\' &&
    closes (tags before ++ tags after) &&
    match tagAt after with
    | some (_, tag) => closes (tags before ++ tagsAfter (tag.length + 2) after)
    | none => true

theorem exists_plain {s : String} (h : closes (tags s.toList) = true) : ∃ t, plain s = .ok t := by
  have hok : (plain s).isOk = true := (plain_isOk s).trans h
  cases hplain : plain s with
  | ok t => exact ⟨t, rfl⟩
  | error fault =>
    rw [hplain] at hok
    cases hok

theorem plain_framed {before after : String} (h : frames before.toList after.toList = true) (s : String) :
    ∃ t, plain (before ++ escape s ++ after) = .ok t := by
  simp only [frames, Bool.and_eq_true, Option.isNone_iff_eq_none, bne_iff_ne] at h
  obtain ⟨⟨⟨⟨hsettled, hopen⟩, hslash⟩, hall⟩, hrest⟩ := h
  refine exists_plain ?_
  rw [String.toList_append, String.toList_append, List.append_assoc, tags_append hsettled]
  rcases tags_escape hopen hslash s with htags | ⟨tag, htag, htags⟩
  · rw [htags]
    exact hall
  · simp only [htag] at hrest
    rw [htags]
    exact hrest

end Markup

/-! ## §6 Blocks -/

namespace Block

open Markup

/-- A block that can be shown. -/
def Shows (b : Block) : Prop := ∃ lines, b.lines = .ok lines

theorem shows_panel {title body : String} (htitle : ∃ t, plain title = .ok t)
    (hbody : ∃ t, plain body = .ok t) : Shows (.panel title [body]) := by
  obtain ⟨t, ht⟩ := htitle
  obtain ⟨u, hu⟩ := hbody
  exact ⟨_, by simp only [lines, draw, titleText, List.mapM_cons, List.mapM_nil, cellLines, ht, hu]; rfl⟩

end Block
end BrowserScript.Screen
