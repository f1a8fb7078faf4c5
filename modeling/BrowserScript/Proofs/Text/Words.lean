/-
BrowserScript.Proofs.Text.Words — words and what follows them.

A text can be cut wherever no word goes on (`Breaks`), and its words are then those of the two parts
(`words_append`). Everything else about words comes from this equation.

* `exists_first_word`: a text with a word is blanks, that word, and the text after it.
* `exists_cut_afterWords`: the text after the first words begins where the last of them ends.
* `trimChars_afterWords_append`: where a text is cut after its words, the second part is what follows
  them, up to blanks.
* `words_trimChars`, `trimChars_afterWords_trimChars`: trimming changes neither the words nor what
  follows them.
* `trimChars_eq_self`, `trimChars_between`: texts that trimming leaves as they are.
-/
import BrowserScript.Text.Blank
import Mathlib.Data.List.TakeWhile

namespace BrowserScript.Text

/-! ## §1 Blanks -/

/-- Whether a text is blank all through. -/
def AllBlank (cs : List Char) : Prop := ∀ c ∈ cs, isBlank c = true

/-- Whether no word goes on at the beginning of a text. -/
def Breaks (cs : List Char) : Prop := ∀ c ∈ cs.head?, isBlank c = true

theorem AllBlank.breaks {cs : List Char} (h : AllBlank cs) : Breaks cs :=
  fun c hc => h c (List.mem_of_mem_head? hc)

theorem allBlank_takeWhile (cs : List Char) : AllBlank (cs.takeWhile isBlank) :=
  fun _ hc => List.mem_takeWhile_imp hc

theorem breaks_dropWhile (cs : List Char) : Breaks (cs.dropWhile (fun c => !isBlank c)) := by
  intro c hc
  have hhead := List.head?_dropWhile_not (fun c => !isBlank c) cs
  rw [Option.mem_def.1 hc] at hhead
  simpa using hhead

theorem trimStart_append {b : List Char} (hb : AllBlank b) (cs : List Char) :
    trimStart (b ++ cs) = trimStart cs := by
  induction b with
  | nil => rfl
  | cons c b ih =>
    rw [List.cons_append, trimStart, List.dropWhile_cons_of_pos (hb c List.mem_cons_self)]
    exact ih (fun d hd => hb d (List.mem_cons_of_mem c hd))

/-- Blanks at the end are trimmed away, whatever stands before them. -/
theorem trimEnd_append {b : List Char} (hb : AllBlank b) (cs : List Char) :
    trimEnd (cs ++ b) = trimEnd cs := by
  have hrev : AllBlank b.reverse := fun c hc => hb c (List.mem_reverse.1 hc)
  unfold trimEnd
  rw [List.reverse_append]
  exact congrArg List.reverse (trimStart_append hrev cs.reverse)

theorem AllBlank.trimStart_eq_nil {b : List Char} (hb : AllBlank b) : trimStart b = [] :=
  List.dropWhile_eq_nil_iff.2 hb

/-- Blanks at the end do not count, whatever stands before them. -/
theorem trimChars_append {b : List Char} (hb : AllBlank b) (cs : List Char) :
    trimChars (cs ++ b) = trimChars cs := by
  unfold trimChars
  by_cases hcs : trimStart cs = []
  · have hcs' : AllBlank cs := List.dropWhile_eq_nil_iff.1 hcs
    rw [trimStart_append hcs', hb.trimStart_eq_nil, hcs]
  · have hdrop : trimStart (cs ++ b) = trimStart cs ++ b := by
      unfold trimStart at hcs ⊢
      rw [List.dropWhile_append, if_neg (by simpa using hcs)]
    rw [hdrop, trimEnd_append hb]

/-- Blanks at the beginning do not count either. -/
theorem trimChars_blank_append {b : List Char} (hb : AllBlank b) (cs : List Char) :
    trimChars (b ++ cs) = trimChars cs :=
  congrArg trimEnd (trimStart_append hb cs)

theorem trimChars_cons_of_blank {c : Char} (hc : isBlank c = true) (cs : List Char) :
    trimChars (c :: cs) = trimChars cs := by
  rw [trimChars, trimStart, List.dropWhile_cons_of_pos hc, ← trimStart, ← trimChars]

/-- What trimming leaves of a text without blanks before it has blanks after it only. -/
theorem exists_eq_trimStart (cs : List Char) : ∃ b, AllBlank b ∧ trimChars cs ++ b = trimStart cs := by
  refine ⟨((trimStart cs).reverse.takeWhile isBlank).reverse, ?_, ?_⟩
  · exact fun c hc => allBlank_takeWhile _ c (List.mem_reverse.1 hc)
  · unfold trimChars trimEnd
    rw [← List.reverse_append, List.takeWhile_append_dropWhile, List.reverse_reverse]

/-- A text is its trimmed form with blanks around it. -/
theorem exists_eq_trimChars (cs : List Char) :
    ∃ b₁ b₂, AllBlank b₁ ∧ AllBlank b₂ ∧ cs = b₁ ++ trimChars cs ++ b₂ := by
  obtain ⟨b, hb, hend⟩ := exists_eq_trimStart cs
  refine ⟨cs.takeWhile isBlank, b, allBlank_takeWhile cs, hb, ?_⟩
  rw [List.append_assoc, hend]
  exact (List.takeWhile_append_dropWhile).symm

/-- A trimmed text does not begin with a blank. -/
theorem head?_trimChars (cs : List Char) : ∀ c ∈ (trimChars cs).head?, isBlank c = false := by
  intro c hc
  obtain ⟨rest, hrest⟩ := List.head?_eq_some_iff.1 hc
  obtain ⟨b, -, hend⟩ := exists_eq_trimStart cs
  have hfirst := List.head?_dropWhile_not isBlank cs
  rw [← trimStart, ← hend, hrest] at hfirst
  simpa using hfirst

/-- A trimmed text does not end with a blank. -/
theorem getLast?_trimChars (cs : List Char) : ∀ c ∈ (trimChars cs).getLast?, isBlank c = false := by
  intro c hc
  have hfirst := List.head?_dropWhile_not isBlank (trimStart cs).reverse
  rw [trimChars, trimEnd, List.getLast?_reverse, Option.mem_def] at hc
  simpa [hc] using hfirst

/-- A text that neither begins nor ends with a blank is trimmed. -/
theorem trimChars_eq_self {cs : List Char} (hfirst : ∀ c ∈ cs.head?, isBlank c = false)
    (hlast : ∀ c ∈ cs.getLast?, isBlank c = false) : trimChars cs = cs := by
  have hkeep : ∀ ds : List Char, (∀ c ∈ ds.head?, isBlank c = false) → ds.dropWhile isBlank = ds := by
    intro ds hds
    cases ds with
    | nil => rfl
    | cons d ds => exact List.dropWhile_cons_of_neg (by simp [hds d rfl])
  rw [trimChars, trimStart, hkeep cs hfirst, trimEnd, hkeep cs.reverse, List.reverse_reverse]
  rwa [List.head?_reverse]

/-- Between texts that begin and end with no blank, anything may stand. -/
theorem trimChars_around {front back : List Char} (hfront : front ≠ []) (hback : back ≠ [])
    (hfirst : ∀ c ∈ front.head?, isBlank c = false) (hlast : ∀ c ∈ back.getLast?, isBlank c = false)
    (middle : List Char) : trimChars (front ++ (middle ++ back)) = front ++ (middle ++ back) := by
  obtain ⟨c, first, rfl⟩ := List.exists_cons_of_ne_nil hfront
  obtain ⟨last, d, rfl⟩ := (List.eq_nil_or_concat back).resolve_left hback
  rw [List.concat_eq_append] at hlast ⊢
  refine trimChars_eq_self ?_ ?_
  · intro e he
    exact hfirst e (by simpa using he)
  · intro e he
    rw [← List.append_assoc, ← List.append_assoc, List.getLast?_concat] at he
    exact hlast e (by simpa using he)

/-- A text between two characters that are not blank is trimmed. -/
theorem trimChars_between {c d : Char} (hc : isBlank c = false) (hd : isBlank d = false)
    (cs : List Char) : trimChars (c :: (cs ++ [d])) = c :: (cs ++ [d]) := by
  refine trimChars_eq_self (fun e he => Option.some.inj he ▸ hc) (fun e he => ?_)
  rw [← List.cons_append, List.getLast?_concat] at he
  exact Option.some.inj he ▸ hd

/-! ## §2 Words -/

theorem words_cons_of_blank {c : Char} (hc : isBlank c = true) (cs : List Char) :
    words (c :: cs) = words cs := by
  rw [words.eq_def]
  simp [hc]

/-- Blanks before a text belong to no word. -/
theorem AllBlank.words_append {b : List Char} (hb : AllBlank b) (cs : List Char) :
    words (b ++ cs) = words cs := by
  induction b with
  | nil => rfl
  | cons c b ih =>
    rw [List.cons_append, words_cons_of_blank (hb c List.mem_cons_self)]
    exact ih (fun d hd => hb d (List.mem_cons_of_mem c hd))

/-- A character before a break is a word of its own. -/
theorem words_cons_of_breaks {c : Char} (hc : isBlank c = false) {cs : List Char} (h : Breaks cs) :
    words (c :: cs) = [c] :: words cs := by
  rw [words.eq_def]
  cases cs with
  | nil => simp [hc, words]
  | cons d rest => simp [hc, h d rfl]

/-- A character before a word joins it. -/
theorem words_cons_cons {c d : Char} (hc : isBlank c = false) (hd : isBlank d = false)
    (cs : List Char) : ∃ word others, words (d :: cs) = word :: others ∧
      words (c :: d :: cs) = (c :: word) :: others := by
  have hne : words (d :: cs) ≠ [] := by
    rw [words.eq_def]
    simp only [hd, Bool.false_eq_true, if_false]
    split
    · nofun
    · split
      · nofun
      · split <;> nofun
  obtain ⟨word, others, hwords⟩ := List.exists_cons_of_ne_nil hne
  refine ⟨word, others, hwords, ?_⟩
  rw [words.eq_def]
  simp [hc, hd, hwords]

/-- A text that begins with no blank begins with a word. -/
theorem exists_words_cons {c : Char} (hc : isBlank c = false) (cs : List Char) :
    ∃ word others, words (c :: cs) = (c :: word) :: others := by
  cases cs with
  | nil => exact ⟨[], [], words_cons_of_breaks hc nofun⟩
  | cons d cs =>
    cases hd : isBlank d with
    | true => exact ⟨[], _, words_cons_of_breaks hc (fun e he => Option.some.inj he ▸ hd)⟩
    | false =>
      obtain ⟨word, others, -, hwords⟩ := words_cons_cons hc hd cs
      exact ⟨_, _, hwords⟩

/-- A text that is cut where no word goes on has the words of both parts. -/
theorem words_append (front : List Char) {tail : List Char} (h : Breaks tail) :
    words (front ++ tail) = words front ++ words tail := by
  induction front with
  | nil => rfl
  | cons c front ih =>
    rw [List.cons_append]
    cases hc : isBlank c with
    | true => rw [words_cons_of_blank hc, words_cons_of_blank hc, ih]
    | false =>
      cases front with
      | nil =>
        rw [List.nil_append, words_cons_of_breaks hc h]
        simp [words, hc]
      | cons d front =>
        cases hd : isBlank d with
        | true =>
          have hbreaks : ∀ cs, Breaks (d :: cs) := fun _ e he => Option.some.inj he ▸ hd
          rw [List.cons_append, words_cons_of_breaks hc (hbreaks _), words_cons_of_breaks hc (hbreaks _),
            ← List.cons_append, ih, List.cons_append]
        | false =>
          obtain ⟨word, others, hword, hlonger⟩ := words_cons_cons hc hd front
          obtain ⟨word', others', hword', hlonger'⟩ := words_cons_cons hc hd (front ++ tail)
          rw [List.cons_append] at ih
          rw [hword, hword', List.cons_append] at ih
          injection ih with hfirst hothers
          rw [List.cons_append, hlonger, hlonger', hfirst, hothers, List.cons_append]

theorem AllBlank.words_eq_nil {cs : List Char} (h : AllBlank cs) : words cs = [] := by
  induction cs with
  | nil => rfl
  | cons c cs ih =>
    rw [words_cons_of_blank (h c List.mem_cons_self)]
    exact ih (fun d hd => h d (List.mem_cons_of_mem c hd))

/-- A text without blanks is one word. -/
theorem words_of_noBlank {w : List Char} (hne : w ≠ []) (hw : ∀ c ∈ w, isBlank c = false) :
    words w = [w] := by
  induction w with
  | nil => exact absurd rfl hne
  | cons c w ih =>
    have hc := hw c List.mem_cons_self
    cases w with
    | nil => simp [words, hc]
    | cons d w =>
      have hd := hw d (List.mem_cons_of_mem c List.mem_cons_self)
      obtain ⟨word, others, hword, hlonger⟩ := words_cons_cons hc hd w
      rw [ih nofun (fun e he => hw e (List.mem_cons_of_mem c he))] at hword
      injection hword with hfirst hothers
      rw [hlonger, ← hfirst, ← hothers]

/-! ## §3 After the first words -/

theorem breaks_afterWord (cs : List Char) : Breaks (afterWord cs) := breaks_dropWhile _

/-- A text that is not blank is blanks, a word, and the text after it. -/
theorem exists_first_word {cs : List Char} (h : ¬ AllBlank cs) :
    ∃ b w, AllBlank b ∧ w ≠ [] ∧ (∀ c ∈ w, isBlank c = false) ∧ cs = b ++ w ++ afterWord cs := by
  have hnoBlank : ∀ c ∈ (trimStart cs).takeWhile (fun c => !isBlank c), isBlank c = false :=
    fun c hc => by simpa using List.mem_takeWhile_imp hc
  refine ⟨cs.takeWhile isBlank, (trimStart cs).takeWhile (fun c => !isBlank c),
    allBlank_takeWhile cs, ?_, hnoBlank, ?_⟩
  · intro hnil
    rcases hstart : trimStart cs with _ | ⟨c, rest⟩
    · exact h (List.dropWhile_eq_nil_iff.1 hstart)
    · have hc := List.head?_dropWhile_not isBlank cs
      rw [show cs.dropWhile isBlank = c :: rest from hstart] at hc
      rw [hstart, List.takeWhile_cons_of_pos (by simpa using hc)] at hnil
      cases hnil
  · rw [List.append_assoc, afterWord, List.takeWhile_append_dropWhile]
    exact (List.takeWhile_append_dropWhile).symm

section FirstWord

variable {b w tail : List Char}

/-- The words of blanks, a word and a text that does not continue it. -/
theorem words_first (hb : AllBlank b) (hne : w ≠ []) (hw : ∀ c ∈ w, isBlank c = false)
    (h : Breaks tail) : words (b ++ w ++ tail) = w :: words tail := by
  rw [words_append _ h, hb.words_append, words_of_noBlank hne hw]
  rfl

/-- What follows the first of these words begins where the text was cut. -/
theorem afterWord_first (hb : AllBlank b) (hne : w ≠ []) (hw : ∀ c ∈ w, isBlank c = false)
    (h : Breaks tail) : afterWord (b ++ w ++ tail) = tail := by
  obtain ⟨c, rest, rfl⟩ := List.exists_cons_of_ne_nil hne
  have hstart : trimStart (b ++ (c :: rest) ++ tail) = (c :: rest) ++ tail := by
    rw [List.append_assoc, trimStart_append hb]
    exact List.dropWhile_cons_of_neg (by simp [hw c List.mem_cons_self])
  rw [afterWord, hstart, List.dropWhile_append_of_pos (by simpa using hw)]
  cases tail with
  | nil => rfl
  | cons d tail => exact List.dropWhile_cons_of_neg (by simp [h d rfl])

end FirstWord

theorem words_eq_nil {cs : List Char} : words cs = [] ↔ AllBlank cs := by
  constructor
  · intro h
    by_contra hblank
    obtain ⟨b, w, hb, hne, hw, hcs⟩ := exists_first_word hblank
    rw [hcs, words_first hb hne hw (breaks_afterWord cs)] at h
    cases h
  · intro h
    have hwords := h.words_append []
    rwa [List.append_nil] at hwords

theorem words_afterWord (cs : List Char) : words (afterWord cs) = (words cs).tail := by
  by_cases hblank : AllBlank cs
  · have hnil : afterWord cs = [] := by rw [afterWord, hblank.trimStart_eq_nil]; rfl
    rw [words_eq_nil.2 hblank, hnil]
    rfl
  · obtain ⟨b, w, hb, hne, hw, hcs⟩ := exists_first_word hblank
    have hwords := words_first hb hne hw (breaks_afterWord cs)
    rw [← hcs] at hwords
    rw [hwords, List.tail_cons]

/-- A cut text that has a word in its first part goes on after that word in both parts. -/
theorem afterWord_append {front tail : List Char} (hfront : ¬ AllBlank front) (h : Breaks tail) :
    afterWord (front ++ tail) = afterWord front ++ tail := by
  obtain ⟨b, w, hb, hne, hw, hcs⟩ := exists_first_word hfront
  have hbreaks : Breaks (afterWord front ++ tail) := by
    rcases hafter : afterWord front with _ | ⟨c, rest⟩
    · exact h
    · intro d hd
      exact breaks_afterWord front d (by rw [hafter]; exact hd)
  calc afterWord (front ++ tail)
      = afterWord (b ++ w ++ (afterWord front ++ tail)) := by rw [← List.append_assoc, ← hcs]
    _ = afterWord front ++ tail := afterWord_first hb hne hw hbreaks

theorem words_afterWords (n : Nat) (cs : List Char) : words (afterWords n cs) = (words cs).drop n := by
  induction n generalizing cs with
  | zero => rfl
  | succ n ih => rw [afterWords, ih, words_afterWord, List.drop_tail]

/-- A cut text goes on after words of its first part in both parts. -/
theorem afterWords_append {n : Nat} {front tail : List Char} (hn : n ≤ (words front).length)
    (h : Breaks tail) : afterWords n (front ++ tail) = afterWords n front ++ tail := by
  induction n generalizing front with
  | zero => rfl
  | succ n ih =>
    have hfront : ¬ AllBlank front := by
      intro hblank
      rw [words_eq_nil.2 hblank] at hn
      exact absurd hn (Nat.not_succ_le_zero n)
    rw [afterWords, afterWord_append hfront h, afterWords]
    refine ih ?_
    rw [words_afterWord, List.length_tail]
    omega

/-- The text after the first words begins where the last of them ends. -/
theorem exists_cut_afterWords {n : Nat} {cs : List Char} (hpos : 0 < n)
    (hn : n ≤ (words cs).length) :
    ∃ front, cs = front ++ afterWords n cs ∧ words front = (words cs).take n ∧
      Breaks (afterWords n cs) := by
  induction n generalizing cs with
  | zero => exact absurd hpos (Nat.lt_irrefl 0)
  | succ n ih =>
    have hblank : ¬ AllBlank cs := by
      intro hblank
      rw [words_eq_nil.2 hblank] at hn
      exact absurd hn (Nat.not_succ_le_zero n)
    obtain ⟨b, w, hb, hne, hw, hcs⟩ := exists_first_word hblank
    have hwords : words cs = w :: words (afterWord cs) :=
      (congrArg words hcs).trans (words_first hb hne hw (breaks_afterWord cs))
    rcases Nat.eq_zero_or_pos n with rfl | hmore
    · refine ⟨b ++ w, hcs, ?_, breaks_afterWord cs⟩
      have hend : Breaks [] := nofun
      have hbw := words_first hb hne hw hend
      rw [List.append_nil] at hbw
      rw [hbw, hwords]
      rfl
    · have hlength : n ≤ (words (afterWord cs)).length := by
        rw [hwords, List.length_cons] at hn
        omega
      obtain ⟨front, hfront, htake, hbreaks⟩ := ih hmore hlength
      refine ⟨b ++ w ++ front, ?_, ?_, hbreaks⟩
      · rw [afterWords, List.append_assoc, ← hfront]
        exact hcs
      · have hfrontBreaks : Breaks front := by
          rcases front with _ | ⟨c, rest⟩
          · nofun
          · intro d hd
            exact breaks_afterWord cs d (by rw [hfront]; exact hd)
        rw [words_first hb hne hw hfrontBreaks, htake, hwords, List.take_succ_cons]

/-- Where a text is cut after its words, the second part is what follows them, up to blanks. -/
theorem trimChars_afterWords_append {front tail : List Char} (h : Breaks tail) :
    trimChars (afterWords (words front).length (front ++ tail)) = trimChars tail := by
  have hblank : AllBlank (afterWords (words front).length front) := by
    rw [← words_eq_nil, words_afterWords, List.drop_length]
  rw [afterWords_append (Nat.le_refl _) h, trimChars_blank_append hblank]

/-! ## §4 Trimmed texts -/

/-- A trimmed text has no blanks at its ends. -/
theorem trimChars_trimChars (cs : List Char) : trimChars (trimChars cs) = trimChars cs := by
  obtain ⟨b₁, b₂, hb₁, hb₂, hcs⟩ := exists_eq_trimChars cs
  calc trimChars (trimChars cs)
      = trimChars (b₁ ++ trimChars cs) := (trimChars_blank_append hb₁ _).symm
    _ = trimChars (b₁ ++ trimChars cs ++ b₂) := (trimChars_append hb₂ _).symm
    _ = trimChars cs := by rw [← hcs]

theorem toList_trim (s : String) : (trim s).toList = trimChars s.toList := String.toList_ofList

theorem trim_trim (s : String) : trim (trim s) = trim s := by
  rw [trim, toList_trim, trimChars_trimChars, ← trim]

theorem words_trimChars (cs : List Char) : words (trimChars cs) = words cs := by
  obtain ⟨b₁, b₂, hb₁, hb₂, hcs⟩ := exists_eq_trimChars cs
  have hwords := congrArg words hcs
  rw [words_append _ hb₂.breaks, words_eq_nil.2 hb₂, List.append_nil, hb₁.words_append] at hwords
  exact hwords.symm

/-- Trimming a text does not change what follows its first words, up to blanks. -/
theorem trimChars_afterWords_trimChars {n : Nat} {cs : List Char} (hpos : 0 < n)
    (hn : n ≤ (words cs).length) :
    trimChars (afterWords n (trimChars cs)) = trimChars (afterWords n cs) := by
  obtain ⟨b₁, b₂, hb₁, hb₂, hcs⟩ := exists_eq_trimChars cs
  obtain ⟨n, rfl⟩ := Nat.exists_eq_add_one.2 hpos
  have hlength : n + 1 ≤ (words (trimChars cs)).length := by rwa [words_trimChars]
  have hstart : afterWord (b₁ ++ (trimChars cs ++ b₂)) = afterWord (trimChars cs ++ b₂) := by
    rw [afterWord, trimStart_append hb₁, afterWord]
  have hafter : afterWords (n + 1) cs = afterWords (n + 1) (trimChars cs) ++ b₂ := by
    rw [← afterWords_append hlength hb₂.breaks, afterWords, afterWords, ← hstart,
      ← List.append_assoc, ← hcs]
  rw [hafter, trimChars_append hb₂]

end BrowserScript.Text
