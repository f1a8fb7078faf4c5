/-
BrowserScript.Proofs.Number.Rounding — the arithmetic of 53 bits rounds to the nearest number.

A quotient is rounded in two steps. The lengths of its two numbers tell where its leading bit stands
(`exponentFor_spec`), and division with a remainder rounds to the last of 53 places (`scaledRound_rounds`).
Decimal numerals are such quotients, but for those that are far outside of the range; a product with a whole
number is rounded once more. What is rounded to `2 ^ 1024` or beyond is held as an infinity (`Stored`).

Main statements: `ofRatio_stored`, `ofDecimal_stored`, `scale_stored` and `Stored.trunc`.
-/
import BrowserScript.Number.Decimal
import BrowserScript.Proofs.Number.Nearest
import Mathlib.Data.Rat.Floor

namespace BrowserScript.Number

open Binary64

/-! ## §1 Rounding to a multiple of a power of two -/

theorem roundDiv_rounds (num : ℕ) {den : ℕ} (hden : 0 < den) : Rounds (num / den) 1 (roundDiv num den) := by
  have hpos : (0 : ℚ) < den := by exact_mod_cast hden
  have hsplit : (num / den : ℚ) = (num / den : ℕ) + (num % den : ℕ) / den := by
    rw [eq_comm, add_div_eq_mul_add_div _ _ hpos.ne', div_left_inj' hpos.ne', mul_comm]
    exact_mod_cast Nat.div_add_mod num den
  rw [hsplit]
  unfold roundDiv
  generalize num / den = q
  have hr : num % den < den := Nat.mod_lt _ hden
  generalize num % den = r at hr ⊢
  have hpart : (0 : ℚ) ≤ r / den := by positivity
  rcases lt_trichotomy (2 * r) den with hlow | htie | hhigh
  · have hless : (r / den : ℚ) < 1 / 2 := by
      rw [div_lt_div_iff₀ hpos two_pos]
      exact_mod_cast (by omega : r * 2 < 1 * den)
    have hnear : |(q + r / den : ℚ) - q * 1| < 1 / 2 := by
      rwa [mul_one, add_sub_cancel_left, abs_of_nonneg hpart]
    rw [if_pos hlow]
    exact ⟨hnear.le, fun h => absurd h hnear.ne⟩
  · have hhalf : (r / den : ℚ) = 1 / 2 := by
      rw [div_eq_div_iff hpos.ne' two_ne_zero]
      exact_mod_cast (by omega : r * 2 = 1 * den)
    have heven : Even (q + q % 2) := by
      rw [Nat.even_iff]
      omega
    rw [if_neg (by omega), if_neg (by omega), hhalf]
    refine ⟨?_, fun _ => heven⟩
    rw [Nat.cast_add, mul_one, add_sub_add_left_eq_sub, abs_le]
    rcases Nat.mod_two_eq_zero_or_one q with h | h
    · rw [h]
      norm_num
    · rw [h]
      norm_num
  · have hmore : (1 / 2 : ℚ) < r / den := by
      rw [div_lt_div_iff₀ two_pos hpos]
      exact_mod_cast (by omega : 1 * den < r * 2)
    have hone : (r / den : ℚ) < 1 := by
      rw [div_lt_one hpos]
      exact_mod_cast hr
    have hnear : |(q + r / den : ℚ) - (q + 1 : ℕ) * 1| < 1 / 2 := by
      rw [Nat.cast_add, mul_one, add_sub_add_left_eq_sub, Nat.cast_one, abs_lt]
      constructor <;> linarith
    rw [if_neg (by omega), if_pos hhigh]
    exact ⟨hnear.le, fun h => absurd h hnear.ne⟩

/-- Rounding to a multiple of a power of two is rounding of the quotient by that power. -/
theorem exists_scaled (num : ℕ) {den : ℕ} (hden : 0 < den) (e : ℤ) :
    ∃ n d : ℕ, 0 < d ∧ scaledRound num den e = roundDiv n d ∧ (n / d : ℚ) = num / den / 2 ^ e := by
  have hpos : (0 : ℚ) < den := by exact_mod_cast hden
  unfold scaledRound
  split
  · case isTrue he =>
    refine ⟨_, _, hden, rfl, ?_⟩
    rw [zpow_of_neg 2 he, div_inv_eq_mul]
    push_cast [Nat.pow_eq]
    ring
  · case isFalse he =>
    refine ⟨_, _, Nat.mul_pos hden (Nat.pow_pos two_pos), rfl, ?_⟩
    rw [zpow_of_nonneg 2 (not_lt.mp he), div_div]
    push_cast [Nat.pow_eq]
    rfl

theorem scaledRound_rounds (num : ℕ) {den : ℕ} (hden : 0 < den) (e : ℤ) :
    Rounds (num / den) (2 ^ e) (scaledRound num den e) := by
  obtain ⟨n, d, hd, hround, hquot⟩ := exists_scaled num hden e
  obtain ⟨hnear, heven⟩ := roundDiv_rounds n hd
  have hpos := two_zpow_pos e
  have hscale : |(num / den : ℚ) - roundDiv n d * 2 ^ e| = 2 ^ e * |(n / d : ℚ) - roundDiv n d * 1| := by
    rw [hquot, ← abs_of_pos hpos, ← abs_mul, abs_of_pos hpos, mul_one, mul_sub, mul_div_cancel₀ _ hpos.ne',
      mul_comm _ (2 ^ e)]
  rw [hround]
  refine ⟨?_, fun htie => heven ?_⟩
  · rw [hscale, div_eq_mul_one_div (_ ^ _)]
    exact mul_le_mul_of_nonneg_left hnear hpos.le
  · rw [hscale, div_eq_mul_one_div (_ ^ _)] at htie
    exact mul_left_cancel₀ hpos.ne' htie

/-! ## §2 The exponent -/

theorem powerAtMost_iff (num : ℕ) {den : ℕ} (hden : 0 < den) (e : ℤ) :
    powerAtMost num den e = true ↔ (2 : ℚ) ^ e ≤ num / den := by
  have hpos : (0 : ℚ) < den := by exact_mod_cast hden
  unfold powerAtMost
  split
  · case isTrue he =>
    rw [zpow_of_neg 2 he, inv_eq_one_div, div_le_div_iff₀ (by positivity) hpos, one_mul, decide_eq_true_iff]
    exact_mod_cast Iff.rfl
  · case isFalse he =>
    rw [zpow_of_nonneg 2 (not_lt.mp he), le_div_iff₀ hpos, mul_comm, decide_eq_true_iff]
    exact_mod_cast Iff.rfl

/-- The leading place of a quotient is found from the lengths of its two numbers. -/
theorem exists_leading {num den : ℕ} (hnum : 0 < num) (hden : 0 < den) :
    ∃ top : ℤ, exponentFor num den = max (top - 52) (-1074) ∧ (2 : ℚ) ^ top ≤ num / den ∧
      (num / den : ℚ) < 2 ^ (top + 1) := by
  have hpos : (0 : ℚ) < den := by exact_mod_cast hden
  have hnumLow : (2 : ℚ) ^ (num.log2 : ℤ) ≤ num := by
    rw [zpow_natCast]
    exact_mod_cast Nat.log2_self_le hnum.ne'
  have hnumHigh : (num : ℚ) < 2 ^ (num.log2 + 1 : ℤ) := by exact_mod_cast Nat.lt_log2_self
  have hdenLow : (2 : ℚ) ^ (den.log2 : ℤ) ≤ den := by
    rw [zpow_natCast]
    exact_mod_cast Nat.log2_self_le hden.ne'
  have hdenHigh : (den : ℚ) < 2 ^ (den.log2 + 1 : ℤ) := by exact_mod_cast Nat.lt_log2_self
  refine ⟨_, rfl, ?_⟩
  split
  · case isTrue hguess =>
    refine ⟨(powerAtMost_iff num hden _).mp hguess, ?_⟩
    rw [div_lt_iff₀ hpos]
    calc (num : ℚ) < 2 ^ (num.log2 + 1 : ℤ) := hnumHigh
      _ = 2 ^ (num.log2 - den.log2 + 1 : ℤ) * 2 ^ (den.log2 : ℤ) := by rw [← two_zpow_add]; congr 1; ring
      _ ≤ 2 ^ (num.log2 - den.log2 + 1 : ℤ) * den := mul_le_mul_of_nonneg_left hdenLow (two_zpow_pos _).le
  · case isFalse hguess =>
    have hless := not_le.mp (fun h => hguess ((powerAtMost_iff num hden _).mpr h))
    refine ⟨?_, by rwa [sub_add_cancel]⟩
    rw [le_div_iff₀ hpos]
    calc (2 : ℚ) ^ (num.log2 - den.log2 - 1 : ℤ) * den
        ≤ 2 ^ (num.log2 - den.log2 - 1 : ℤ) * 2 ^ (den.log2 + 1 : ℤ) :=
          mul_le_mul_of_nonneg_left hdenHigh.le (two_zpow_pos _).le
      _ = 2 ^ (num.log2 : ℤ) := by rw [← two_zpow_add]; congr 1; ring
      _ ≤ num := hnumLow

/-- The exponent gives a quotient 53 bits, unless it is the least one; then the quotient may have fewer. -/
theorem exponentFor_spec {num den : ℕ} (hnum : 0 < num) (hden : 0 < den) :
    -1074 ≤ exponentFor num den ∧ (num / den : ℚ) < 2 ^ (exponentFor num den + 53) ∧
      (exponentFor num den = -1074 ∨ 2 ^ (exponentFor num den + 52) ≤ (num / den : ℚ)) := by
  obtain ⟨top, hexp, hlow, hhigh⟩ := exists_leading hnum hden
  rw [hexp]
  refine ⟨le_max_right _ _, hhigh.trans_le (two_zpow_le (by omega)), ?_⟩
  rcases le_total (top - 52) (-1074) with h | h
  · exact .inl (max_eq_right h)
  · rw [max_eq_left h, sub_add_cancel]
    exact .inr hlow

/-! ## §3 Stored numbers -/

/-- How a number is held: as it is below `2 ^ 1024`, and as an infinity from there on. -/
def Stored (negative : Bool) (x : ℚ) : Binary64 → Prop
  | .finite s m e => s = negative ∧ x = m * 2 ^ e ∧ x < 2 ^ 1024
  | .infinite s => s = negative ∧ 2 ^ 1024 ≤ x
  | .nan => False

/-- A mantissa with its exponent is too large exactly when the exponent is, if it has all its bits. -/
theorem stored_of_bits (negative : Bool) {m : ℕ} {e : ℤ} (hm : m < 2 ^ 53) (hfull : 971 < e → 2 ^ 52 ≤ m) :
    Stored negative (m * 2 ^ e) (if 971 < e then .infinite negative else .finite negative m e) := by
  split
  · case isTrue hlarge =>
    refine ⟨rfl, ?_⟩
    have hbits : (2 : ℚ) ^ 52 ≤ m := by exact_mod_cast hfull hlarge
    calc (2 : ℚ) ^ 1024 = 2 ^ 52 * 2 ^ (972 : ℤ) := by rw [zpow_ofNat, ← pow_add]
      _ ≤ (m : ℚ) * 2 ^ e := mul_le_mul hbits (two_zpow_le hlarge) (two_zpow_pos _).le (by positivity)
  · case isFalse hsmall =>
    refine ⟨rfl, rfl, ?_⟩
    have hbits : (m : ℚ) < 2 ^ 53 := by exact_mod_cast hm
    calc (m : ℚ) * 2 ^ e < 2 ^ 53 * 2 ^ e := mul_lt_mul_of_pos_right hbits (two_zpow_pos e)
      _ ≤ 2 ^ 53 * 2 ^ (971 : ℤ) := mul_le_mul_of_nonneg_left (two_zpow_le (by omega)) (by positivity)
      _ = 2 ^ 1024 := by rw [zpow_ofNat, ← pow_add]

/-- A mantissa that is one too large after rounding is halved. -/
theorem stored_of_carry (negative : Bool) {m : ℕ} {e : ℤ} {carried : ℕ × ℤ}
    (hcarried : carried = if m = Nat.pow 2 53 then (Nat.pow 2 52, e + 1) else (m, e)) (hm : m ≤ 2 ^ 53)
    (hfull : -1074 < e → 2 ^ 52 ≤ m) :
    Stored negative (m * 2 ^ e)
      (if 971 < carried.2 then .infinite negative else .finite negative carried.1 carried.2) := by
  subst hcarried
  split
  · case isTrue hcarry =>
    have hvalue : (m : ℚ) * 2 ^ e = (2 ^ 52 : ℕ) * 2 ^ (e + 1) := by
      rw [hcarry, two_zpow_add]
      push_cast [Nat.pow_eq]
      ring
    rw [hvalue]
    exact stored_of_bits negative (by norm_num) (fun _ => le_rfl)
  · case isFalse hcarry =>
    exact stored_of_bits negative (lt_of_le_of_ne hm hcarry) (fun h => hfull (by omega))

theorem stored_zero (negative : Bool) : Stored negative 0 (.finite negative 0 0) :=
  ⟨rfl, by simp, by positivity⟩

/-- A quotient below `2 ^ (e + 53)` is rounded to at most `2 ^ 53` steps of `2 ^ e`. -/
theorem Rounds.le_of_lt {q : ℚ} {m : ℕ} {e : ℤ} (h : Rounds q (2 ^ e) m) (hbits : q < 2 ^ (e + 53)) :
    m ≤ 2 ^ 53 := by
  by_contra hmore
  have hmany : (2 : ℚ) ^ 53 + 1 ≤ m := by exact_mod_cast not_le.mp hmore
  have hpos := two_zpow_pos e
  have hgrid : ((2 : ℚ) ^ 53 + 1) * 2 ^ e ≤ m * 2 ^ e := mul_le_mul_of_nonneg_right hmany hpos.le
  have hclose := (abs_le.mp h.near).1
  rw [two_zpow_add] at hbits
  linarith

/-- A quotient is rounded to the nearest number. -/
theorem ofRatio_stored (negative : Bool) (num : ℕ) {den : ℕ} (hden : 0 < den) :
    ∃ x, Nearest (num / den) x ∧ Stored negative x (ofRatio negative num den) := by
  unfold ofRatio
  split
  · case isTrue hzero =>
    refine ⟨0, ?_, stored_zero negative⟩
    rw [hzero, Nat.cast_zero, zero_div]
    exact .self fits_zero
  · case isFalse hnum =>
    dsimp only
    obtain ⟨hleast, hbits, hfull⟩ := exponentFor_spec (Nat.pos_of_ne_zero hnum) hden
    have hrounds := scaledRound_rounds num hden (exponentFor num den)
    generalize exponentFor num den = e at hleast hbits hfull hrounds ⊢
    generalize scaledRound num den e = m at hrounds ⊢
    have hm := hrounds.le_of_lt hbits
    have hnearest := nearest_of_rounds hrounds hleast hm hfull
    -- with more than the least exponent the rounded number still has its leading bit
    have hlead : -1074 < e → 2 ^ 52 ≤ m := by
      intro hmore
      have hreach := hnearest.le_of_le (fits_two_zpow (by norm_num) (by push_cast; omega))
        (hfull.resolve_left hmore.ne')
      rw [add_comm, two_zpow_add] at hreach
      exact_mod_cast le_of_mul_le_mul_right hreach (two_zpow_pos e)
    refine ⟨m * 2 ^ e, hnearest, ?_⟩
    split
    · case isTrue hzero =>
      rw [hzero, Nat.cast_zero, zero_mul]
      exact stored_zero negative
    · exact stored_of_carry negative rfl hm hlead

theorem exists_nearest {q : ℚ} (hq : 0 ≤ q) : ∃ x, Nearest q x := by
  obtain ⟨x, hx, -⟩ := ofRatio_stored false q.num.toNat q.den_pos
  have hvalue : (q.num.toNat / q.den : ℚ) = q := by
    have hnum : ((q.num.toNat : ℤ) : ℚ) = q.num := by rw [Int.toNat_of_nonneg (Rat.num_nonneg.mpr hq)]
    rw [Int.cast_natCast] at hnum
    rw [hnum, Rat.num_div_den]
  exact ⟨x, hvalue ▸ hx⟩

theorem fits_limit : Fits 53 (2 ^ 1024) := by
  have h := fits_two_zpow (p := 53) (by norm_num) (e := 1024) (by norm_num)
  exact_mod_cast h

/-! ### Decimal numerals -/

theorem digits_bounds {n : ℕ} (hn : n ≠ 0) :
    10 ^ ((digitsOf n).length - 1) ≤ n ∧ n < 10 ^ (digitsOf n).length := by
  have hlen : 0 < (digitsOf n).length := Nat.length_toDigits_pos
  have hmost : ∀ k, 0 < k → ((digitsOf n).length ≤ k ↔ n < 10 ^ k) :=
    fun k => Nat.length_toDigits_le_iff (by norm_num)
  refine ⟨?_, (hmost _ hlen).mp le_rfl⟩
  rcases Nat.eq_zero_or_pos ((digitsOf n).length - 1) with hone | hmore
  · rw [hone]
    omega
  · by_contra hless
    have hshort := (hmost _ hmore).mpr (not_le.mp hless)
    omega

/-- A numeral with more than 310 places before the point is beyond all numbers that are held as they are. -/
theorem limit_le_decimal {digits : ℕ} {power : ℤ} (hdigits : digits ≠ 0)
    (hmany : 310 < (digitsOf digits).length + power) : (2 : ℚ) ^ 1024 ≤ digits * 10 ^ power := by
  have hlow := (digits_bounds hdigits).1
  generalize (digitsOf digits).length = len at hmany hlow
  have hlimit : 2 ^ 1024 ≤ 10 ^ 310 := by decide +kernel
  have hlow' : (10 : ℚ) ^ (len - 1) ≤ digits := by exact_mod_cast hlow
  calc (2 : ℚ) ^ 1024 ≤ 10 ^ (310 : ℤ) := by exact_mod_cast hlimit
    _ ≤ 10 ^ (((len - 1 : ℕ) : ℤ) + power) := zpow_le_zpow_right₀ (by norm_num) (by omega)
    _ = 10 ^ (len - 1) * 10 ^ power := by rw [zpow_add₀ (by norm_num), zpow_natCast]
    _ ≤ digits * 10 ^ power := mul_le_mul_of_nonneg_right hlow' (by positivity)

/-- A numeral that begins after 330 zeros behind the point is nearest to zero. -/
theorem nearest_zero_decimal {digits : ℕ} {power : ℤ} (hdigits : digits ≠ 0)
    (hfew : (digitsOf digits).length + power < -330) : Nearest (digits * 10 ^ power) 0 := by
  have hhigh := (digits_bounds hdigits).2
  generalize (digitsOf digits).length = len at hfew hhigh
  have hsmall : (digits * 10 ^ power : ℚ) < 2 ^ (-1074 : ℤ) / 2 := by
    have hlimit : 2 ^ 1075 < 10 ^ 331 := by decide +kernel
    have hhigh' : (digits : ℚ) < 10 ^ (len : ℤ) := by exact_mod_cast hhigh
    calc (digits * 10 ^ power : ℚ) < 10 ^ (len : ℤ) * 10 ^ power := mul_lt_mul_of_pos_right hhigh' (by positivity)
      _ = 10 ^ (len + power) := (zpow_add₀ (by norm_num) _ _).symm
      _ ≤ 10 ^ (-331 : ℤ) := zpow_le_zpow_right₀ (by norm_num) (by omega)
      _ = (10 ^ 331)⁻¹ := zpow_neg _ _
      _ < (2 ^ 1075)⁻¹ := inv_strictAnti₀ (by positivity) (by exact_mod_cast hlimit)
      _ = 2 ^ (-1074 : ℤ) / 2 := by rw [pow_succ, mul_inv, zpow_neg]; rfl
  have hrounds : Rounds (digits * 10 ^ power) (2 ^ (-1074 : ℤ)) 0 := by
    refine ⟨?_, fun _ => ⟨0, rfl⟩⟩
    rw [Nat.cast_zero, zero_mul, sub_zero, abs_of_nonneg (by positivity)]
    exact hsmall.le
  have hnearest := nearest_of_rounds hrounds le_rfl (Nat.zero_le _) (.inl rfl)
  rwa [Nat.cast_zero, zero_mul] at hnearest

/-- A decimal numeral is rounded to the nearest number. -/
theorem ofDecimal_stored (negative : Bool) (digits : ℕ) (power : ℤ) :
    ∃ x, Nearest (digits * 10 ^ power) x ∧ Stored negative x (ofDecimal negative digits power) := by
  unfold ofDecimal
  split
  · case isTrue hzero =>
    refine ⟨0, ?_, stored_zero negative⟩
    rw [hzero, Nat.cast_zero, zero_mul]
    exact .self fits_zero
  · case isFalse hdigits =>
    dsimp only
    split
    · case isTrue hmany =>
      obtain ⟨x, hx⟩ := exists_nearest (by positivity : (0 : ℚ) ≤ digits * 10 ^ power)
      exact ⟨x, hx, rfl, hx.le_of_le fits_limit (limit_le_decimal hdigits hmany)⟩
    · split
      · case isTrue hfew => exact ⟨0, nearest_zero_decimal hdigits hfew, stored_zero negative⟩
      · split
        · case isTrue hneg =>
          have hden : 0 < Nat.pow 10 (-power).toNat := Nat.pow_pos (by norm_num)
          obtain ⟨x, hx, hstored⟩ := ofRatio_stored negative digits hden
          refine ⟨x, ?_, hstored⟩
          rw [zpow_of_neg 10 hneg, ← div_eq_mul_inv]
          exact_mod_cast hx
        · case isFalse hnonneg =>
          obtain ⟨x, hx, hstored⟩ := ofRatio_stored negative (digits * Nat.pow 10 power.toNat) one_pos
          refine ⟨x, ?_, hstored⟩
          rw [zpow_of_nonneg 10 (not_lt.mp hnonneg)]
          rw [Nat.cast_one, div_one] at hx
          exact_mod_cast hx

/-! ### Products and whole parts -/

theorem ratio_value (m : ℕ) (e : ℤ) : 0 < (ratio m e).2 ∧ ((ratio m e).1 / (ratio m e).2 : ℚ) = m * 2 ^ e := by
  unfold ratio
  split
  · case isTrue he =>
    refine ⟨Nat.pow_pos two_pos, ?_⟩
    rw [zpow_of_neg 2 he, div_eq_mul_inv]
    push_cast [Nat.pow_eq]
    rfl
  · case isFalse he =>
    refine ⟨one_pos, ?_⟩
    rw [zpow_of_nonneg 2 (not_lt.mp he)]
    push_cast [Nat.pow_eq]
    rw [div_one]

/-- A product with a whole number is rounded once more. -/
theorem scale_stored {negative : Bool} {x : ℚ} {b : Binary64} (h : Stored negative x b) {k : ℕ} (hk : 0 < k) :
    ∃ y, Nearest (k * x) y ∧ Stored negative y (b.scale k) := by
  cases b with
  | finite s m e =>
    obtain ⟨rfl, rfl, -⟩ := h
    obtain ⟨hden, hvalue⟩ := ratio_value m e
    obtain ⟨y, hy, hstored⟩ := ofRatio_stored s (k * (ratio m e).1) hden
    refine ⟨y, ?_, hstored⟩
    rwa [Nat.cast_mul, mul_div_assoc, hvalue] at hy
  | infinite s =>
    obtain ⟨rfl, hlarge⟩ := h
    have hmore : x ≤ k * x :=
      le_mul_of_one_le_left ((by positivity : (0 : ℚ) ≤ 2 ^ 1024).trans hlarge) (by exact_mod_cast hk)
    obtain ⟨y, hy⟩ := exists_nearest ((by positivity : (0 : ℚ) ≤ 2 ^ 1024).trans (hlarge.trans hmore))
    exact ⟨y, hy, rfl, hy.le_of_le fits_limit (hlarge.trans hmore)⟩
  | nan => exact h.elim

/-- The whole part of a number that is not negative; an infinity has none. -/
theorem Stored.trunc {x : ℚ} {b : Binary64} (h : Stored false x b) :
    b.trunc? = if x < 2 ^ 1024 then some ⌊x⌋ else none := by
  cases b with
  | finite s m e =>
    obtain ⟨rfl, rfl, hsmall⟩ := h
    rw [if_pos hsmall, ← (ratio_value m e).2, Rat.floor_natCast_div_natCast]
    rfl
  | infinite s =>
    rw [if_neg (not_lt.mpr h.2)]
    rfl
  | nan => exact h.elim

end BrowserScript.Number
