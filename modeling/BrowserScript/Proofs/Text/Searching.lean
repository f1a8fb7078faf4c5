/-
BrowserScript.Proofs.Text.Searching — finding, cutting and lowering.

* `occursIn_iff`, `endsWith_iff`: where a text stands in another.
* `splitAt?_eq_some_iff`, `splitAt?_eq_none`: the first occurrence of a character is where the text before
  it lacks the character.
* `splitOn_joined`: joined texts, cut again.
* `takeWhile_append_stop`: a scan ends at the first character that it does not take.
* `lowerChars_ascii`: lower case in ASCII goes from character to character.
-/
import BrowserScript.Text.Search
import BrowserScript.Text.LowerCase
import Mathlib.Data.List.Infix

namespace BrowserScript.Text

/-! ## §1 Texts in texts -/

theorem occursIn_iff {needle cs : List Char} : occursIn needle cs = true ↔ needle <:+: cs := by
  induction cs with
  | nil => simp [occursIn]
  | cons c rest ih =>
    rw [occursIn, Bool.or_eq_true, ih, List.isPrefixOf_iff_prefix, List.infix_cons_iff]

theorem contains_append_left {s t needle : String} (h : contains t needle = true) :
    contains (s ++ t) needle = true := by
  unfold contains at *
  rw [occursIn_iff] at *
  rw [String.toList_append]
  exact h.trans (List.suffix_append _ _).isInfix

theorem contains_append_right {s t needle : String} (h : contains s needle = true) :
    contains (s ++ t) needle = true := by
  unfold contains at *
  rw [occursIn_iff] at *
  rw [String.toList_append]
  exact h.trans (List.prefix_append _ _).isInfix

theorem mem_of_contains {s needle : String} (h : contains s needle = true) {c : Char}
    (hc : c ∈ needle.toList) : c ∈ s.toList := by
  unfold contains at h
  exact (occursIn_iff.1 h).subset hc

theorem endsWith_iff {s ending : String} : endsWith s ending = true ↔ ending.toList <:+ s.toList := by
  rw [endsWith, List.isPrefixOf_iff_prefix, List.reverse_prefix]

/-! ## §2 Cuts -/

section
variable {mark : Char} {front : List Char}

theorem splitAt?_append_cons (h : mark ∉ front) (rest : List Char) :
    splitAt? mark (front ++ mark :: rest) = some (front, rest) := by
  induction front with
  | nil => simp [splitAt?]
  | cons c front ih =>
    have hc : (c == mark) = false := by
      simpa using fun hcm => h (by simp [hcm])
    simp [splitAt?, hc, ih (fun hm => h (List.mem_cons_of_mem c hm))]

theorem splitAt?_eq_none (h : mark ∉ front) : splitAt? mark front = none := by
  induction front with
  | nil => rfl
  | cons c front ih =>
    have hc : (c == mark) = false := by
      simpa using fun hcm => h (by simp [hcm])
    simp [splitAt?, hc, ih (fun hm => h (List.mem_cons_of_mem c hm))]

/-- A text is cut at the first occurrence. -/
theorem splitAt?_eq_some_iff {cs back : List Char} :
    splitAt? mark cs = some (front, back) ↔ cs = front ++ mark :: back ∧ mark ∉ front := by
  constructor
  · intro h
    induction cs generalizing front with
    | nil => cases h
    | cons c cs ih =>
      rw [splitAt?] at h
      by_cases hc : c = mark
      · simp only [hc, beq_self_eq_true, if_true, Option.some.injEq, Prod.mk.injEq] at h
        simp [← h.1, ← h.2, hc]
      · simp only [beq_iff_eq, hc, if_false, Option.map_eq_some_iff, Prod.mk.injEq] at h
        obtain ⟨⟨front, rest⟩, hcut, rfl, rfl⟩ := h
        obtain ⟨rfl, hfree⟩ := ih hcut
        simpa [hfree] using Ne.symm hc
  · rintro ⟨rfl, hfree⟩
    exact splitAt?_append_cons hfree back

/-- A text without a character is one part, cut at this character. -/
theorem splitOn_eq_singleton (h : mark ∉ front) : splitOn mark front = [front] := by
  induction front with
  | nil => rfl
  | cons c front ih =>
    obtain ⟨hc, hfront⟩ := List.ne_and_not_mem_of_not_mem_cons h
    simp [splitOn, hc.symm, ih hfront]

theorem splitOn_append_cons (h : mark ∉ front) (rest : List Char) :
    splitOn mark (front ++ mark :: rest) = front :: splitOn mark rest := by
  induction front with
  | nil => simp [splitOn]
  | cons c front ih =>
    obtain ⟨hc, hfront⟩ := List.ne_and_not_mem_of_not_mem_cons h
    simp [splitOn, hc.symm, ih hfront]

/-- Joined by a character that none of them has, texts are found again by cutting at this character. -/
theorem splitOn_joined {separator s : String} (hseparator : separator.toList = [mark]) {others : List String}
    (h : ∀ t ∈ s :: others, mark ∉ t.toList) :
    splitOn mark (joined separator (s :: others)).toList = (s :: others).map String.toList := by
  induction others generalizing s with
  | nil => exact splitOn_eq_singleton (h s List.mem_cons_self)
  | cons t others ih =>
    obtain ⟨hs, hothers⟩ := List.forall_mem_cons.1 h
    have hjoined : (joined separator (s :: t :: others)).toList
        = s.toList ++ mark :: (joined separator (t :: others)).toList := by
      rw [joined, String.toList_append, String.toList_append, hseparator, List.append_assoc]
      · rfl
      · nofun
    rw [hjoined, splitOn_append_cons hs, ih hothers]
    rfl

/-- A text without a character keeps all it has when this character is replaced. -/
theorem replaceChar_eq_self (h : mark ∉ front) (other : List Char) : replaceChar mark other front = front := by
  induction front with
  | nil => rfl
  | cons c front ih =>
    obtain ⟨hc, hfront⟩ := List.ne_and_not_mem_of_not_mem_cons h
    rw [replaceChar, List.flatMap_cons, if_neg (by simpa using hc.symm), ← replaceChar, ih hfront,
      List.singleton_append]

/-- A character that is replaced by a text without it is gone. -/
theorem not_mem_replaceChar {other : List Char} (h : mark ∉ other) (cs : List Char) :
    mark ∉ replaceChar mark other cs := by
  intro hmem
  obtain ⟨c, -, hc⟩ := List.mem_flatMap.1 hmem
  split at hc
  · exact h hc
  · rename_i hkept
    exact hkept (by simp [List.mem_singleton.1 hc])

theorem length_clip_le (s : String) : (clip s).length ≤ 80 := by
  unfold clip
  split
  · assumption
  · have hdots : "...".length = 3 := by decide
    rw [String.length_append, String.length_ofList, hdots, List.length_take]
    omega

/-- A scan takes all of a text before one that begins with nothing to take. -/
theorem takeWhile_append_stop {p : Char → Bool} {back : List Char} (hfront : ∀ c ∈ front, p c = true)
    (hback : ∀ c ∈ back.head?, p c = false) : (front ++ back).takeWhile p = front := by
  rw [List.takeWhile_append_of_pos hfront]
  cases back with
  | nil => simp
  | cons c back => simp [hback c rfl]

theorem dropWhile_append_stop {p : Char → Bool} {back : List Char} (hfront : ∀ c ∈ front, p c = true)
    (hback : ∀ c ∈ back.head?, p c = false) : (front ++ back).dropWhile p = back := by
  rw [List.dropWhile_append_of_pos hfront]
  cases back with
  | nil => rfl
  | cons c back => exact List.dropWhile_cons_of_neg (by simp [hback c rfl])

end

/-! ## §3 Lower case in ASCII -/

/-- The characters of ASCII. -/
def IsAscii (cs : List Char) : Prop := ∀ c ∈ cs, c.toNat < 128

theorem lowerChar_ascii {c : Char} (h : c.toNat < 128) :
    (c == '\u03a3') = false ∧ lowerChar c = [c.toLower] := by
  have hall : ∀ n < 128, (Char.ofNat n == '\u03a3') = false ∧
      lowerChar (Char.ofNat n) = [(Char.ofNat n).toLower] := by decide
  simpa using hall c.toNat h

/-- The lower case of a text in ASCII is that of its characters. -/
theorem lowerChars_ascii {cs : List Char} (h : IsAscii cs) : lowerChars cs = cs.map Char.toLower := by
  have hafter : ∀ before, lowerAfter before cs = cs.map Char.toLower := by
    induction cs with
    | nil => exact fun _ => rfl
    | cons c cs ih =>
      intro before
      have hc := lowerChar_ascii (h c List.mem_cons_self)
      rw [lowerAfter, hc.1, hc.2, ih (fun d hd => h d (List.mem_cons_of_mem c hd))]
      rfl
  exact hafter []

end BrowserScript.Text
