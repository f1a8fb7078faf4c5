/-
BrowserScript.Proofs.Vocabulary.WrittenDuration — the texts that are durations.

A duration is written in six parts (`Written`): blanks, digits, a point with digits after it or nothing, blanks,
a unit or nothing, blanks. Blanks, digits, the point and the letters of units are four classes without a common
character (`isBlank_of_isDigit`, `apart_of_unitLetter`). So the reader, which takes the longest run each time,
finds the parts where there are any, and it finds the same parts that were written.

* `takeDigits_eq`, `read?_eq`: the reader by runs.
* `Written.trimChars_chars`: what is left of a written duration without the blanks around it.
* `unitInSeconds?_eq_some_iff`: the two kinds of unit, and the unit of milliseconds that counts as one of seconds.

Main statements: `Written.read?_chars` and `exists_written`, the two directions.
-/
import BrowserScript.Proofs.Text.Searching
import BrowserScript.Proofs.Text.Words
import BrowserScript.Vocabulary.Duration

namespace BrowserScript.Vocabulary

open Duration Text

/-! ## §1 The four classes of characters -/

theorem digitIn_eq_some {n d : Nat} {starts : List Nat} (h : digitIn n starts = some d) :
    ∃ start ∈ starts, ∃ k < 10, n = start + k := by
  induction starts with
  | nil => cases h
  | cons start rest ih =>
    rw [digitIn] at h
    split at h
    · cases h
    · split at h
      · exact ⟨start, List.mem_cons_self, n - start, by omega, by omega⟩
      · obtain ⟨other, hmem, hrow⟩ := ih h
        exact ⟨other, List.mem_cons_of_mem _ hmem, hrow⟩

theorem isBlank_of_isDigit {c : Char} (h : isDigit c = true) : isBlank c = false := by
  have hrows : ∀ start ∈ zeroDigits, ∀ k < 10, inRanges (start + k) blankRanges = false := by decide +kernel
  obtain ⟨d, hd⟩ := Option.isSome_iff_exists.mp h
  obtain ⟨start, hmem, k, hk, hn⟩ := digitIn_eq_some hd
  rw [isBlank, hn]
  exact hrows start hmem k hk

theorem foldChar_ascii {c : Char} (h : c.toNat < 128) : foldChar c = c.toLower := by
  have hall : ∀ n < 128, foldChar (Char.ofNat n) = (Char.ofNat n).toLower := by decide
  simpa using hall c.toNat h

/-- A character that counts as a lower-case letter of ASCII. -/
def isUnitLetter (c : Char) : Bool := (foldChar c).isLower

theorem ascii_of_isLower_toLower {c : Char} (h : c.toLower.isLower = true) :
    65 ≤ c.toNat ∧ c.toNat ≤ 90 ∨ 97 ≤ c.toNat ∧ c.toNat ≤ 122 := by
  unfold Char.toLower at h
  split at h
  · case isTrue hupper => exact .inl hupper
  · case isFalse =>
    obtain ⟨hlow, hhigh⟩ := Bool.and_eq_true_iff.mp h
    exact .inr ⟨of_decide_eq_true hlow, of_decide_eq_true hhigh⟩

/-- Letters of units end every other part. -/
theorem apart_of_unitLetter {c : Char} (h : isUnitLetter c = true) :
    isDigit c = false ∧ isBlank c = false ∧ c ≠ '.' := by
  have hascii : ∀ n < 128, 65 ≤ n ∧ n ≤ 90 ∨ 97 ≤ n ∧ n ≤ 122 →
      (digitIn n zeroDigits).isSome = false ∧ inRanges n blankRanges = false ∧ n ≠ 46 := by decide
  unfold isUnitLetter foldChar at h
  split at h
  · case isTrue hlong =>
    rw [eq_of_beq hlong]
    decide
  · split at h
    · case isTrue hdots =>
      rcases Bool.or_eq_true_iff.mp hdots with hdot | hdot <;> rw [eq_of_beq hdot] <;> decide
    · split at h
      · case isTrue hkelvin =>
        rw [eq_of_beq hkelvin]
        decide
      · have hletter := ascii_of_isLower_toLower h
        obtain ⟨hdigit, hblank, hpoint⟩ := hascii c.toNat (by omega) hletter
        exact ⟨hdigit, hblank, fun heq => hpoint (congrArg Char.toNat heq)⟩

/-! ## §2 Units -/

/-- The alternatives of the unit that stand for milliseconds, in any case. No unit is one of them. -/
def NamesMilliseconds (unit : List Char) : Prop := unit = [] ∨ String.ofList (unit.map foldChar) = "ms"

/-- The alternatives of the unit that stand for seconds, in any case. -/
def NamesSeconds (unit : List Char) : Prop := String.ofList (unit.map foldChar) ∈ secondUnits

/-- The units that are counted as milliseconds: no unit and what is `ms` in lower case. -/
def CountsMilliseconds (unit : List Char) : Prop := unit = [] ∨ lowerChars unit = "ms".toList

instance (unit : List Char) : Decidable (NamesMilliseconds unit) := inferInstanceAs (Decidable (_ ∨ _))

instance (unit : List Char) : Decidable (NamesSeconds unit) := inferInstanceAs (Decidable (_ ∈ _))

instance (unit : List Char) : Decidable (CountsMilliseconds unit) := inferInstanceAs (Decidable (_ ∨ _))

theorem eq_of_foldChar_eq_s {c : Char} (h : foldChar c = 's') : c = 's' ∨ c = 'S' ∨ c = '\u017f' := by
  have hascii : ∀ n < 128, (Char.ofNat n).toLower = 's' → Char.ofNat n = 's' ∨ Char.ofNat n = 'S' := by decide
  unfold foldChar at h
  split at h
  · case isTrue hlong => exact .inr (.inr (eq_of_beq hlong))
  · split at h
    · cases h
    · split at h
      · cases h
      · have hletter := ascii_of_isLower_toLower (c := c) (by rw [h]; decide)
        have hcase := hascii c.toNat (by omega)
        rw [Char.ofNat_toNat] at hcase
        rcases hcase h with rfl | rfl
        · exact .inl rfl
        · exact .inr (.inl rfl)

/-- A unit of seconds does not become the one of milliseconds in lower case: it begins with an s. -/
theorem NamesSeconds.not_countsMilliseconds {unit : List Char} (h : NamesSeconds unit) :
    ¬CountsMilliseconds unit := by
  have hinitial : ∀ u ∈ secondUnits, u.toList.head? = some 's' := by decide
  have hhead := hinitial _ h
  rw [String.toList_ofList, List.head?_map] at hhead
  obtain ⟨c, hc, hfold⟩ := Option.map_eq_some_iff.mp hhead
  obtain ⟨rest, rfl⟩ := List.head?_eq_some_iff.mp hc
  rintro (hnil | hlower)
  · cases hnil
  · have hfirst := congrArg List.head? hlower
    rcases eq_of_foldChar_eq_s hfold with rfl | rfl | rfl
    · cases hfirst
    · cases hfirst
    · cases hfirst

theorem unitInSeconds?_eq (unit : List Char) :
    unitInSeconds? unit = if NamesMilliseconds unit ∨ NamesSeconds unit then
      some (!decide (CountsMilliseconds unit)) else none := by
  unfold unitInSeconds?
  by_cases hnil : unit = []
  · have hnames : NamesMilliseconds unit := .inl hnil
    have hcounts : CountsMilliseconds unit := .inl hnil
    rw [if_pos (Or.inl hnames : NamesMilliseconds unit ∨ NamesSeconds unit), decide_eq_true hcounts, hnil]
    rfl
  · have hempty : unit.isEmpty = false := by simpa using hnil
    dsimp only
    rw [hempty, if_neg Bool.false_ne_true]
    split
    · case isTrue hms =>
      have hnames : NamesMilliseconds unit := .inr (eq_of_beq hms)
      have hcounts : CountsMilliseconds unit ↔ lowerChars unit = "ms".toList := or_iff_right hnil
      rw [if_pos (.inl hnames), decide_eq_decide.mpr hcounts, bne, beq_eq_decide]
    · case isFalse hms =>
      have hnames : ¬NamesMilliseconds unit := not_or.mpr ⟨hnil, fun h => hms (beq_of_eq h)⟩
      split
      · case isTrue hsec =>
        have hsec' : NamesSeconds unit := List.contains_iff_mem.mp hsec
        rw [if_pos (.inr hsec'), decide_eq_false hsec'.not_countsMilliseconds]
        rfl
      · case isFalse hsec =>
        have hsec' : ¬NamesSeconds unit := fun h => hsec (List.contains_iff_mem.mpr h)
        rw [if_neg (not_or.mpr ⟨hnames, hsec'⟩)]

/-- All characters of a unit are letters of units. -/
theorem isUnitLetter_of_names {unit : List Char} (h : NamesMilliseconds unit ∨ NamesSeconds unit) :
    ∀ c ∈ unit, isUnitLetter c = true := by
  have hletters : ∀ u ∈ "ms" :: secondUnits, u.toList.all Char.isLower = true := by decide
  have hfolded : unit = [] ∨ String.ofList (unit.map foldChar) ∈ "ms" :: secondUnits := by
    rcases h with (hnil | hms) | hsec
    · exact .inl hnil
    · exact .inr (hms ▸ List.mem_cons_self)
    · exact .inr (List.mem_cons_of_mem _ hsec)
  rcases hfolded with rfl | hmem
  · simp
  · intro c hc
    have hunit := hletters _ hmem
    rw [String.toList_ofList, List.all_map] at hunit
    exact List.all_eq_true.mp hunit c hc

/-! ## §3 The reader by runs -/

/-- The values of digits. -/
def digitValues (ds : List Char) : List Nat := ds.filterMap digitValue

theorem takeDigits_eq (cs : List Char) :
    takeDigits cs = (digitValues (cs.takeWhile isDigit), cs.dropWhile isDigit) := by
  induction cs with
  | nil => rfl
  | cons c rest ih =>
    rw [takeDigits]
    cases hc : digitValue c with
    | none =>
      have hdigit : isDigit c = false := by rw [isDigit, hc, Option.isSome_none]
      rw [List.takeWhile_cons_of_neg (by simp [hdigit]), List.dropWhile_cons_of_neg (by simp [hdigit])]
      rfl
    | some d =>
      have hdigit : isDigit c = true := by rw [isDigit, hc, Option.isSome_some]
      rw [List.takeWhile_cons_of_pos hdigit, List.dropWhile_cons_of_pos hdigit, ih]
      exact congrArg (fun ds => (ds, rest.dropWhile isDigit)) (List.filterMap_cons_some hc).symm

theorem length_digitValues {ds : List Char} (h : ∀ c ∈ ds, isDigit c = true) :
    (digitValues ds).length = ds.length := by
  induction ds with
  | nil => rfl
  | cons c rest ih =>
    obtain ⟨d, hd⟩ := Option.isSome_iff_exists.mp (h c List.mem_cons_self)
    rw [digitValues, List.filterMap_cons_some hd, List.length_cons, List.length_cons, ← digitValues,
      ih (fun e he => h e (List.mem_cons_of_mem c he))]

/-- A point with digits after it; nothing without digits. -/
def pointed : List Char → List Char
  | [] => []
  | ds => '.' :: ds

/-- The digits after a point at the front, and what follows them. A point without digits after it is left. -/
def cutFraction : List Char → List Char × List Char
  | '.' :: rest =>
    if rest.takeWhile isDigit = [] then ([], '.' :: rest) else (rest.takeWhile isDigit, rest.dropWhile isDigit)
  | cs => ([], cs)

theorem pointed_of_ne_nil {ds : List Char} (h : ds ≠ []) : pointed ds = '.' :: ds := by
  rw [pointed]
  exact h

theorem digitValues_eq_nil_iff {ds : List Char} (h : ∀ c ∈ ds, isDigit c = true) :
    digitValues ds = [] ↔ ds = [] := by
  rw [← List.length_eq_zero_iff, length_digitValues h, List.length_eq_zero_iff]

theorem takeWhile_digits (cs : List Char) : ∀ c ∈ cs.takeWhile isDigit, isDigit c = true :=
  fun _ hc => List.mem_takeWhile_imp hc

theorem takeFraction_eq (rest : List Char) :
    (match rest with
      | '.' :: after =>
        match takeDigits after with
        | ([], _) => ([], rest)
        | parts => parts
      | _ => ([], rest)) = (digitValues (cutFraction rest).1, (cutFraction rest).2) := by
  split
  · case h_1 after =>
    rw [takeDigits_eq, cutFraction]
    have hnil := digitValues_eq_nil_iff (takeWhile_digits after)
    split
    · case h_1 heq =>
      have hnone := hnil.mp (congrArg Prod.fst heq)
      rw [if_pos hnone]
      rfl
    · case h_2 hsome =>
      have hdigits : after.takeWhile isDigit ≠ [] := fun h => hsome _ (by rw [hnil.mpr h])
      rw [if_neg hdigits]
  · case h_2 hpoint =>
    rw [cutFraction]
    · rfl
    · exact hpoint

theorem cutFraction_eq (cs : List Char) :
    pointed (cutFraction cs).1 ++ (cutFraction cs).2 = cs ∧ ∀ c ∈ (cutFraction cs).1, isDigit c = true := by
  rw [cutFraction.eq_def]
  split
  · case h_1 rest =>
    split
    · exact ⟨rfl, by simp⟩
    · case isFalse hdigits =>
      refine ⟨?_, takeWhile_digits rest⟩
      rw [pointed_of_ne_nil hdigits, List.cons_append, List.takeWhile_append_dropWhile]
  · exact ⟨rfl, by simp⟩

theorem head?_pointed_append (fraction : List Char) {rest : List Char}
    (h : ∀ c ∈ rest, isDigit c = false ∧ c ≠ '.') : ∀ c ∈ (pointed fraction ++ rest).head?, isDigit c = false := by
  cases fraction with
  | nil => exact fun c hc => (h c (List.mem_of_mem_head? hc)).1
  | cons d ds =>
    rintro c hc
    rw [pointed_of_ne_nil (List.cons_ne_nil d ds)] at hc
    rw [← Option.some.inj hc]
    decide

theorem cutFraction_pointed_append {fraction rest : List Char} (hdigits : ∀ c ∈ fraction, isDigit c = true)
    (h : ∀ c ∈ rest, isDigit c = false ∧ c ≠ '.') : cutFraction (pointed fraction ++ rest) = (fraction, rest) := by
  have hstop : ∀ c ∈ rest.head?, isDigit c = false := fun c hc => (h c (List.mem_of_mem_head? hc)).1
  by_cases hnil : fraction = []
  · subst hnil
    change cutFraction rest = _
    rw [cutFraction]
    rintro after rfl
    exact (h '.' List.mem_cons_self).2 rfl
  · rw [pointed_of_ne_nil hnil, List.cons_append, cutFraction, takeWhile_append_stop hdigits hstop,
      dropWhile_append_stop hdigits hstop, if_neg hnil]

theorem read?_eq (text : String) :
    read? text =
      (let cs := trimChars text.toList
       let cut := cutFraction (cs.dropWhile isDigit)
       if cs.takeWhile isDigit = [] then none
       else (unitInSeconds? (trimStart cut.2)).map
        (fun s => ⟨digitValues (cs.takeWhile isDigit), digitValues cut.1, s⟩)) := by
  unfold read?
  rw [takeDigits_eq]
  dsimp only
  generalize hcs : trimChars text.toList = cs
  have hnil := digitValues_eq_nil_iff (takeWhile_digits cs)
  refine Eq.trans (congrArg (fun cut : List Nat × List Char =>
    if (digitValues (cs.takeWhile isDigit)).isEmpty then none
    else (unitInSeconds? (trimStart cut.2)).map
      (fun s => Duration.mk (digitValues (cs.takeWhile isDigit)) cut.1 s))
    (takeFraction_eq (cs.dropWhile isDigit))) ?_
  simp only [List.isEmpty_iff, hnil]

/-! ## §4 Written durations -/

/-- A duration as it is written. -/
structure Written where
  before : List Char
  whole : List Char
  fraction : List Char
  between : List Char
  unit : List Char
  after : List Char
  blank_before : AllBlank before
  digits_whole : ∀ c ∈ whole, isDigit c = true
  whole_ne_nil : whole ≠ []
  digits_fraction : ∀ c ∈ fraction, isDigit c = true
  blank_between : AllBlank between
  names_unit : NamesMilliseconds unit ∨ NamesSeconds unit
  blank_after : AllBlank after

theorem last_not_blank_append {front back : List Char} (hfront : ∀ c ∈ front.getLast?, isBlank c = false)
    (hback : ∀ c ∈ back.getLast?, isBlank c = false) : ∀ c ∈ (front ++ back).getLast?, isBlank c = false := by
  intro c hc
  rw [List.getLast?_append, Option.mem_def, Option.or_eq_some_iff] at hc
  rcases hc with hlast | ⟨-, hlast⟩
  · exact hback c hlast
  · exact hfront c hlast

namespace Written

variable (w : Written)

def chars : List Char := w.before ++ (w.whole ++ (pointed w.fraction ++ (w.between ++ (w.unit ++ w.after))))

/-- What stands after the numeral, without the blanks at the end. -/
def tail : List Char := if w.unit = [] then [] else w.between ++ w.unit

/-- What the reader finds in a written duration. -/
def duration : Duration :=
  ⟨digitValues w.whole, digitValues w.fraction, !decide (CountsMilliseconds w.unit)⟩

/-- A numeral goes as far as its digits: what comes after it is no digit and no point. -/
theorem tail_apart : ∀ c ∈ w.tail, isDigit c = false ∧ c ≠ '.' := by
  have hbetween : ∀ c ∈ w.between, isDigit c = false ∧ c ≠ '.' := by
    intro c hc
    have hblank := w.blank_between c hc
    refine ⟨?_, ?_⟩
    · by_contra hdigit
      rw [isBlank_of_isDigit (by simpa using hdigit)] at hblank
      cases hblank
    · rintro rfl
      cases hblank
  intro c hc
  unfold tail at hc
  split at hc
  · cases hc
  · rcases List.mem_append.mp hc with hmem | hmem
    · exact hbetween c hmem
    · obtain ⟨hdigit, -, hpoint⟩ := apart_of_unitLetter (isUnitLetter_of_names w.names_unit c hmem)
      exact ⟨hdigit, hpoint⟩

theorem trimStart_tail : trimStart w.tail = w.unit := by
  unfold tail
  split
  · case isTrue hnil => rw [hnil]; rfl
  · case isFalse =>
    rw [trimStart_append w.blank_between]
    cases hunit : w.unit with
    | nil => rfl
    | cons c rest =>
      have hmem : c ∈ w.unit := hunit ▸ List.mem_cons_self
      have hblank := (apart_of_unitLetter (isUnitLetter_of_names w.names_unit c hmem)).2.1
      exact List.dropWhile_cons_of_neg (by simp [hblank])

theorem last_tail : ∀ c ∈ w.tail.getLast?, isBlank c = false := by
  intro c hc
  unfold tail at hc
  split at hc
  · cases hc
  · case isFalse hunit =>
    rw [List.getLast?_append_of_ne_nil _ hunit] at hc
    exact (apart_of_unitLetter (isUnitLetter_of_names w.names_unit c (List.mem_of_getLast? hc))).2.1

/-- The blanks around it apart, a written duration is its numeral and what stands after that. -/
theorem trimChars_chars : trimChars w.chars = w.whole ++ (pointed w.fraction ++ w.tail) := by
  have hsplit : ∃ blanks, AllBlank blanks ∧
      w.chars = w.before ++ ((w.whole ++ (pointed w.fraction ++ w.tail)) ++ blanks) := by
    unfold chars tail
    split
    · case isTrue hnil =>
      refine ⟨w.between ++ w.after, ?_, by simp [hnil]⟩
      exact fun c hc => (List.mem_append.mp hc).elim (w.blank_between c) (w.blank_after c)
    · case isFalse => exact ⟨w.after, w.blank_after, by simp⟩
  obtain ⟨blanks, hblanks, hchars⟩ := hsplit
  rw [hchars, trimChars_blank_append w.blank_before, trimChars_append hblanks]
  refine trimChars_eq_self ?_ ?_
  · intro c hc
    rw [List.head?_append_of_ne_nil _ w.whole_ne_nil] at hc
    exact isBlank_of_isDigit (w.digits_whole c (List.mem_of_mem_head? hc))
  · refine last_not_blank_append (fun c hc => ?_) (last_not_blank_append (fun c hc => ?_) w.last_tail)
    · exact isBlank_of_isDigit (w.digits_whole c (List.mem_of_getLast? hc))
    · cases hfraction : w.fraction with
      | nil =>
        rw [hfraction] at hc
        cases hc
      | cons d rest =>
        have hmem : c ∈ d :: rest := by
          rw [hfraction, pointed_of_ne_nil (List.cons_ne_nil d rest), List.getLast?_cons_cons] at hc
          exact List.mem_of_getLast? hc
        exact isBlank_of_isDigit (w.digits_fraction c (hfraction ▸ hmem))

/-- The reader finds the parts that were written. -/
theorem read?_chars {text : String} (h : w.chars = text.toList) : read? text = some w.duration := by
  have hrest := head?_pointed_append w.fraction w.tail_apart
  have hcut := cutFraction_pointed_append w.digits_fraction w.tail_apart
  rw [read?_eq, ← h, w.trimChars_chars]
  dsimp only
  rw [takeWhile_append_stop w.digits_whole hrest, dropWhile_append_stop w.digits_whole hrest, hcut,
    if_neg w.whole_ne_nil, w.trimStart_tail, unitInSeconds?_eq, if_pos w.names_unit]
  rfl

end Written

/-- What is read as a duration is written as one. -/
theorem exists_written {text : String} {d : Duration} (h : read? text = some d) :
    ∃ w : Written, w.chars = text.toList := by
  rw [read?_eq] at h
  dsimp only at h
  obtain ⟨before, after, hbefore, hafter, htext⟩ := exists_eq_trimChars text.toList
  generalize trimChars text.toList = cs at h htext
  split at h
  · cases h
  · case isFalse hwhole =>
    obtain ⟨seconds, hunit, -⟩ := Option.map_eq_some_iff.mp h
    obtain ⟨hpointed, hfraction⟩ := cutFraction_eq (cs.dropWhile isDigit)
    generalize cutFraction (cs.dropWhile isDigit) = cut at hunit hpointed hfraction
    rw [unitInSeconds?_eq] at hunit
    split at hunit
    · case isTrue hnames =>
      let w : Written := ⟨before, cs.takeWhile isDigit, cut.1, cut.2.takeWhile isBlank, trimStart cut.2, after,
        hbefore, takeWhile_digits cs, hwhole, hfraction, allBlank_takeWhile cut.2, hnames, hafter⟩
      have hend : cut.2.takeWhile isBlank ++ trimStart cut.2 = cut.2 := List.takeWhile_append_dropWhile
      have hcore : cs.takeWhile isDigit ++ (pointed cut.1 ++ cut.2) = cs := by
        rw [hpointed, List.takeWhile_append_dropWhile]
      refine ⟨w, ?_⟩
      calc w.chars = before ++ ((cs.takeWhile isDigit ++ (pointed cut.1 ++
            (cut.2.takeWhile isBlank ++ trimStart cut.2))) ++ after) := by simp [w, Written.chars]
        _ = text.toList := by rw [hend, hcore, htext, List.append_assoc]
    · cases hunit

end BrowserScript.Vocabulary
