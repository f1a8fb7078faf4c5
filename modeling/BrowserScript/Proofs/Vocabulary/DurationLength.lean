/-
BrowserScript.Proofs.Vocabulary.DurationLength — the length of a written duration.

A numeral is read as the nearest number of 53 bits, the number of seconds is multiplied with rounding, and the
product is cut to whole milliseconds. The exact length is the one without the two roundings. Both agree where
the numbers fit (`durationOf_of_fits`), and not everywhere else: a product rounded to just below a whole number
of milliseconds loses one of them.

* `Written.numeral`, `Written.exact`: the exact value of the numeral, and the exact length.
* `Written.counted_eq_factor`: a unit in ASCII counts as what it is named for.
* `durationOf_written`, `durationOf_unwritten`: the length that is computed, and the texts that are declined.

Main statement: `durationOf_exact_iff`. The length is exact, exactly when the two roundings do not carry the
product over a whole number or beyond all numbers.
-/
import BrowserScript.Proofs.Number.Rounding
import BrowserScript.Proofs.Vocabulary.WrittenDuration
import Mathlib.Data.Nat.Digits.Defs

namespace BrowserScript.Vocabulary

open Duration Number Text

/-! ## §1 Numerals -/

/-- The number that digits write. -/
def numberOf (ds : List Char) : ℕ := Nat.ofDigits 10 (digitValues ds).reverse

theorem digitsValue_eq (n : ℕ) (ds : List ℕ) :
    digitsValue 10 n ds = n * 10 ^ ds.length + Nat.ofDigits 10 ds.reverse := by
  induction ds generalizing n with
  | nil => simp [digitsValue]
  | cons d rest ih =>
    rw [digitsValue, ih, List.reverse_cons, Nat.ofDigits_append, Nat.ofDigits_singleton, List.length_reverse,
      List.length_cons, pow_succ]
    ring

theorem digitsValue_append (ds es : List ℕ) :
    digitsValue 10 0 (ds ++ es) = Nat.ofDigits 10 ds.reverse * 10 ^ es.length + Nat.ofDigits 10 es.reverse := by
  rw [digitsValue_eq, List.reverse_append, Nat.ofDigits_append, List.length_reverse]
  ring

namespace Written

variable (w : Written)

/-- The exact value of the numeral. -/
def numeral : ℚ := numberOf w.whole + numberOf w.fraction / 10 ^ w.fraction.length

/-- The milliseconds in what the unit is named for. -/
def factor : ℕ := if NamesSeconds w.unit then 1000 else 1

/-- The milliseconds in what the unit counts as. -/
def counted : ℕ := if CountsMilliseconds w.unit then 1 else 1000

/-- The exact length in whole milliseconds. -/
def exact : ℤ := ⌊w.factor * w.numeral⌋

theorem numeral_eq :
    w.numeral = digitsValue 10 0 (w.duration.whole ++ w.duration.fraction) *
      10 ^ (-(w.duration.fraction.length : ℤ)) := by
  have hlength : w.duration.fraction.length = w.fraction.length := length_digitValues w.digits_fraction
  have hpower : (10 : ℚ) ^ w.fraction.length ≠ 0 := by positivity
  rw [digitsValue_append, hlength, zpow_neg, zpow_natCast, Nat.cast_add, Nat.cast_mul, Nat.cast_pow,
    Nat.cast_ofNat, add_mul, mul_inv_cancel_right₀ hpower, ← div_eq_mul_inv]
  rfl

/-- The length that is computed: the numeral is rounded, the product is rounded, and the rest is cut off. -/
theorem milliseconds_eq :
    ∃ x y, Nearest w.numeral x ∧ Nearest (w.counted * x) y ∧
      w.duration.milliseconds = if y < 2 ^ 1024 then .ok ⌊y⌋ else .error (.ordinary .infinityToWhole) := by
  obtain ⟨x, hx, hamount⟩ := ofDecimal_stored false
    (digitsValue 10 0 (w.duration.whole ++ w.duration.fraction)) (-(w.duration.fraction.length : ℤ))
  rw [← w.numeral_eq] at hx
  have hproduct : ∃ y, Nearest (w.counted * x) y ∧
      Stored false y (if w.duration.inSeconds then w.duration.amount.scale 1000 else w.duration.amount) := by
    by_cases hms : CountsMilliseconds w.unit
    · refine ⟨x, ?_, ?_⟩
      · rw [counted, if_pos hms, Nat.cast_one, one_mul]
        exact .self hx.fits
      · rw [duration, decide_eq_true hms]
        exact hamount
    · rw [counted, if_neg hms, duration, decide_eq_false hms]
      exact scale_stored hamount (by decide)
  obtain ⟨y, hy, hstored⟩ := hproduct
  refine ⟨x, y, hx, hy, ?_⟩
  unfold milliseconds
  dsimp only
  rw [hstored.trunc]
  by_cases hlimit : y < 2 ^ 1024
  · rw [if_pos hlimit, if_pos hlimit]
  · rw [if_neg hlimit, if_neg hlimit]

/-- A unit in ASCII counts as what it is named for. -/
theorem counted_eq_factor (hascii : IsAscii w.unit) : w.counted = w.factor := by
  have hlower : lowerChars w.unit = w.unit.map foldChar := by
    rw [lowerChars_ascii hascii]
    exact List.map_congr_left (fun c hc => (foldChar_ascii (hascii c hc)).symm)
  unfold counted factor
  by_cases hsec : NamesSeconds w.unit
  · rw [if_pos hsec, if_neg hsec.not_countsMilliseconds]
  · have hms : CountsMilliseconds w.unit := by
      rcases w.names_unit.resolve_right hsec with hnil | hfold
      · exact .inl hnil
      · exact .inr (by rw [hlower, ← hfold, String.toList_ofList])
    rw [if_neg hsec, if_pos hms]

end Written

/-! ## §2 The length of a text -/

theorem durationOf_written {text : String} {w : Written} (h : w.chars = text.toList) :
    durationOf text = w.duration.milliseconds := by
  rw [durationOf, w.read?_chars h]

/-- A text that is no duration is declined as a bad value. -/
theorem durationOf_unwritten {text : String} (h : ∀ w : Written, w.chars ≠ text.toList) :
    durationOf text = .error (.input (.badDuration text)) := by
  rw [durationOf]
  cases hread : read? text with
  | none => rfl
  | some d =>
    obtain ⟨w, hw⟩ := exists_written hread
    exact absurd hw (h w)

/-- Where the numeral and the product fit, nothing is rounded. -/
theorem durationOf_of_fits {text : String} {w : Written} (h : w.chars = text.toList) (hascii : IsAscii w.unit)
    (hnumeral : Fits 53 w.numeral) (hproduct : Fits 53 (w.factor * w.numeral))
    (hlimit : w.factor * w.numeral < 2 ^ 1024) : durationOf text = .ok w.exact := by
  obtain ⟨x, y, hx, hy, hlength⟩ := w.milliseconds_eq
  rw [w.counted_eq_factor hascii, ← (Nearest.self hnumeral).unique hx] at hy
  rw [durationOf_written h, hlength, ← (Nearest.self hproduct).unique hy, if_pos hlimit]
  rfl

example : durationOf " 1.5 Seconds" = .ok 1500 := by rfl

/-- Every duration has its exact length and every other text is declined as a bad value, exactly when the two
roundings stay within the same whole number of milliseconds. -/
theorem durationOf_exact_iff (text : String) :
    ((∀ w : Written, w.chars = text.toList → durationOf text = .ok w.exact) ∧
      ((∀ w : Written, w.chars ≠ text.toList) →
        ∃ failure, durationOf text = .error failure ∧ failure.kind = "ValueError")) ↔
    ∀ w : Written, w.chars = text.toList → ∃ x y, Nearest w.numeral x ∧ Nearest (w.counted * x) y ∧
      y < 2 ^ 1024 ∧ ⌊y⌋ = w.exact := by
  constructor
  · rintro ⟨hexact, -⟩ w hw
    obtain ⟨x, y, hx, hy, hlength⟩ := w.milliseconds_eq
    have hboth := hexact w hw
    rw [durationOf_written hw, hlength] at hboth
    split at hboth
    · case isTrue hlimit => exact ⟨x, y, hx, hy, hlimit, Except.ok.inj hboth⟩
    · cases hboth
  · intro hround
    refine ⟨fun w hw => ?_, fun hnone => ⟨_, durationOf_unwritten hnone, rfl⟩⟩
    obtain ⟨x, y, hx, hy, hlength⟩ := w.milliseconds_eq
    obtain ⟨x', y', hx', hy', hlimit, hfloor⟩ := hround w hw
    obtain rfl := hx.unique hx'
    obtain rfl := hy.unique hy'
    rw [durationOf_written hw, hlength, if_pos hlimit, hfloor]

/-- The seconds that are written `1.001s`. -/
def secondAndMillisecond : Written where
  before := []
  whole := ['1']
  fraction := ['0', '0', '1']
  between := []
  unit := ['s']
  after := []
  blank_before := List.forall_mem_nil _
  digits_whole := List.all_eq_true.mp (by decide)
  whole_ne_nil := by decide
  digits_fraction := List.all_eq_true.mp (by decide)
  blank_between := List.forall_mem_nil _
  names_unit := by decide
  blank_after := List.forall_mem_nil _

/-- The product of the numeral 1.001 and one thousand is rounded to a number below 1001. -/
theorem durationOf_loses_millisecond :
    durationOf "1.001s" = .ok 1000 ∧ secondAndMillisecond.chars = "1.001s".toList ∧
      secondAndMillisecond.exact = 1001 := by
  have hwhole : numberOf ['1'] = 1 := by decide
  have hfraction : numberOf ['0', '0', '1'] = 1 := by decide
  have hnumeral : secondAndMillisecond.numeral = 1001 / 1000 := by
    change (numberOf ['1'] + numberOf ['0', '0', '1'] / 10 ^ 3 : ℚ) = 1001 / 1000
    rw [hwhole, hfraction]
    norm_num
  have hfactor : secondAndMillisecond.factor = 1000 := by decide
  refine ⟨by rfl, rfl, ?_⟩
  rw [Written.exact, hnumeral, hfactor]
  norm_num

end BrowserScript.Vocabulary
